import LoxTokens.Pattern.Fault
import LoxTokens.Unicode.Property

/-!
# Reading the text of a pattern

A cursor stands at a point of a text.  While it is verbose, white space and comments between the
parts of a pattern do not count.
-/

namespace LoxTokens
namespace Pattern

/-- A point in a text together with the text that follows it. -/
structure Cursor where
  /-- The text that follows. -/
  rest : List Char
  /-- Where it begins. -/
  point : Point
  /-- Whether white space and comments do not count. -/
  verbose : Bool

namespace Cursor

/-- The cursor at the beginning of a text. -/
def ofText (text : List Char) : Cursor := { rest := text, point := .start, verbose := false }

/-- The character that follows. -/
def next? (cursor : Cursor) : Option Char := cursor.rest.head?

/-- The cursor behind the next character. -/
def step (cursor : Cursor) : Cursor :=
  match cursor.rest with
  | [] => cursor
  | character :: rest => { cursor with rest, point := cursor.point.after character }

/-- Pass over white space and comments from a point on, perhaps from within a comment. -/
def passSpace (inComment : Bool) (point : Point) : List Char → List Char × Point
  | [] => ([], point)
  | character :: rest =>
      if inComment then passSpace (character != '\n') (point.after character) rest
      else if Unicode.isWhiteSpace character then passSpace false (point.after character) rest
      else if character = '#' then passSpace true (point.after character) rest
      else (character :: rest, point)

/-- The cursor behind what does not count. -/
def skipSpace (cursor : Cursor) : Cursor :=
  if cursor.verbose then
    let (rest, point) := passSpace false cursor.point cursor.rest
    { cursor with rest, point }
  else cursor

/-- The cursor behind the next character and what does not count after it. -/
def stepSpace (cursor : Cursor) : Cursor := cursor.step.skipSpace

/-- The character after the next one. -/
def second? (cursor : Cursor) : Option Char := cursor.rest.tail.head?

/--
The character after the next one that counts, if there is one, and otherwise whatever comes after
the next one.  The first character of a comment counts here unless it is white space.
-/
def secondCounting? (cursor : Cursor) : Option Char :=
  let others := cursor.rest.tail
  if cursor.verbose then
    match others.dropWhile Unicode.isWhiteSpace with
    | '#' :: comment => (comment.dropWhile Unicode.isWhiteSpace).head? <|> others.head?
    | counting => counting.head? <|> others.head?
  else others.head?

/-- The cursor behind a word, if that is what follows. -/
def stepWord? (cursor : Cursor) (word : String) : Option Cursor :=
  if word.toList.isPrefixOf cursor.rest then
    some (word.toList.foldl (fun cursor _ => cursor.step) cursor)
  else none

/-- The stretch from an earlier point to the cursor. -/
def spanFrom (cursor : Cursor) (start : Point) : Span := { start, stop := cursor.point }

/-- The empty stretch at the cursor. -/
def here (cursor : Cursor) : Span := .emptyAt cursor.point

/-- The stretch of the next character. -/
def nextSpan (cursor : Cursor) : Span := { start := cursor.point, stop := cursor.step.point }

/--
What follows as long as it is accepted, and the cursor behind it.  Every character that is passed
shortens `bound`, which is a text at least as long as the one that follows.
-/
def collect (accept : Char → Bool) (advance : Cursor → Cursor) :
    (bound : List Char) → Cursor → List Char × Cursor
  | [], cursor => ([], cursor)
  | _ :: bound, cursor =>
      match cursor.next? with
      | some character =>
          if accept character then
            let (others, final) := collect accept advance bound (advance cursor)
            (character :: others, final)
          else ([], cursor)
      | none => ([], cursor)

/-- What follows as long as it is accepted; what does not count is left out. -/
def takeWhile (cursor : Cursor) (accept : Char → Bool) : List Char × Cursor :=
  collect accept stepSpace cursor.rest cursor

end Cursor

/-- A blemish without an earlier stretch. -/
def blemishAt (cause : Cause) (span : Span) : Blemish := { cause, span, earlier := none }

end Pattern
end LoxTokens
