import LoxTokens.Position

/-!
# Text between tokens

Blanks and comments separate tokens and mean nothing.  A comment starts with two slashes and lasts
up to the newline, which is a blank, or to the end of the source.
-/

namespace LoxTokens

/-- Whether a character is a space, a tab, a carriage return or a newline. -/
def isBlank (character : Char) : Bool :=
  character == ' ' || character == '\t' || character == '\r' || character == '\n'

/-- Whether a character and the text after it start a comment. -/
def startsComment (character : Char) (rest : List Char) : Bool :=
  character == '/' && rest.head? == some '/'

/-- Move over the longest run of blanks and comments, from outside or inside a comment. -/
def skipGap : (inComment : Bool) → Position → List Char → Position × List Char
  | _, position, [] => (position, [])
  | true, position, character :: rest =>
      skipGap (character != '\n') (position.next character) rest
  | false, position, character :: rest =>
      if isBlank character then skipGap false (position.next character) rest
      else if startsComment character rest then skipGap true (position.next character) rest
      else (position, character :: rest)

/-- The text left after a gap is not longer than before. -/
theorem length_skipGap_le (inComment : Bool) (position : Position) (text : List Char) :
    (skipGap inComment position text).2.length ≤ text.length := by
  induction text generalizing inComment position with
  | nil => cases inComment <;> simp [skipGap]
  | cons character rest ih =>
      cases inComment with
      | true =>
          have shorter := ih (character != '\n') (position.next character)
          simp only [skipGap, List.length_cons]
          omega
      | false =>
          have blank := ih false (position.next character)
          have comment := ih true (position.next character)
          simp only [skipGap]
          split
          · simp only [List.length_cons]; omega
          · split
            · simp only [List.length_cons]; omega
            · exact Nat.le_refl _

end LoxTokens
