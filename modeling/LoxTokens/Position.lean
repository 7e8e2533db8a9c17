/-!
# Positions in source text

A position counts the bytes before it and the lines begun so far.  Line numbers are machine words
and wrap around; byte offsets do not.
-/

namespace LoxTokens

/-- A place in source text. -/
structure Position where
  /-- Number of bytes before the place. -/
  offset : Nat
  /-- Line of the place, the first line being `1`. -/
  line : UInt32
  deriving DecidableEq

namespace Position

/-- The beginning of a source text. -/
def origin : Position := { offset := 0, line := 1 }

/-- The place after one more character. -/
def next (position : Position) (character : Char) : Position :=
  { offset := position.offset + character.utf8Size
    line := if character = '\n' then position.line + 1 else position.line }

/-- The place after more text. -/
def advance (position : Position) (text : List Char) : Position := text.foldl next position

@[simp]
theorem advance_nil (position : Position) : position.advance [] = position := rfl

@[simp]
theorem advance_cons (position : Position) (character : Char) (text : List Char) :
    position.advance (character :: text) = (position.next character).advance text := rfl

@[simp]
theorem advance_append (position : Position) (left right : List Char) :
    position.advance (left ++ right) = (position.advance left).advance right :=
  List.foldl_append

end Position
end LoxTokens
