import LoxTokens.Diagnostic
import LoxTokens.Token

/-!
# Lexemes

The longest lexeme at the front of a text that does not start with a gap.  Punctuation and
operators are matched by their characters.  Strings run to the next quote, numbers are digits with
an optional fraction, and words are letters, digits and underscores.  A character that starts no
lexeme, a string that does not close and a number that is too large are errors.
-/

namespace LoxTokens

/-- What is recognised besides strings, numbers and punctuation. -/
structure Options where
  /-- Whether letters make words; otherwise each of them is an error. -/
  identifiers : Bool := false
  deriving DecidableEq

/-- What a stretch of source text turns out to be. -/
inductive Verdict where
  /-- A token of some kind that carries a value. -/
  | token (kind : Kind) (literal : Literal)
  /-- Text that is not a token. -/
  | error (error : LexError)
  deriving DecidableEq

/-- A stretch of source text, what it is, and the text that follows it. -/
structure Piece where
  /-- The source text taken. -/
  text : List Char
  /-- What that text is. -/
  verdict : Verdict
  /-- The source text left. -/
  rest : List Char
  deriving DecidableEq

/-- Whether a character can start a word. -/
def startsWord (character : Char) : Bool := character.isAlpha || character == '_'

/-- Whether a character can continue a word. -/
def continuesWord (character : Char) : Bool := character.isAlphanum || character == '_'

/-- An operator, joined with an equals sign if one follows. -/
def readOperator (first : Char) (alone joined : Kind) (rest : List Char) : Piece :=
  match rest with
  | '=' :: rest => { text := [first, '='], verdict := .token joined .null, rest }
  | rest => { text := [first], verdict := .token alone .null, rest }

/-- A string, given the text after its opening quote. -/
def readString (rest : List Char) : Piece :=
  let body := rest.takeWhile (· != '"')
  match rest.dropWhile (· != '"') with
  | [] => { text := '"' :: body, verdict := .error .unterminatedString, rest := [] }
  | quote :: rest =>
      { text := '"' :: body ++ [quote]
        verdict := .token .string (.string (String.ofList body))
        rest }

/-- The digits of a fraction, which needs at least one after the point, and the text after it. -/
def readFraction (rest : List Char) : List Char × List Char :=
  match rest with
  | '.' :: after =>
      if after.head?.any Char.isDigit then
        (after.takeWhile Char.isDigit, after.dropWhile Char.isDigit)
      else ([], rest)
  | _ => ([], rest)

/-- How a number with the given digits before and after the point is written. -/
def numeralText (whole fraction : List Char) : List Char :=
  if fraction.isEmpty then whole else whole ++ '.' :: fraction

/-- The verdict on a number with the given digits before and after the point. -/
def numeralVerdict (whole fraction : List Char) : Verdict :=
  let value := (Decimal.ofDigitRuns whole fraction).toBinary64
  if value.isFinite then .token .number (.number value)
  else .error (.invalidNumber (String.ofList (numeralText whole fraction)))

/-- A number, given its first digit and the text after that. -/
def readNumber (first : Char) (rest : List Char) : Piece :=
  let whole := first :: rest.takeWhile Char.isDigit
  let (fraction, rest) := readFraction (rest.dropWhile Char.isDigit)
  { text := numeralText whole fraction, verdict := numeralVerdict whole fraction, rest }

/-- A word, given its first character and the text after that. -/
def readWord (first : Char) (rest : List Char) : Piece :=
  let text := first :: rest.takeWhile continuesWord
  { text
    verdict := .token (Kind.ofWord (String.ofList text)) .null
    rest := rest.dropWhile continuesWord }

/-- The piece at the front of a text that starts with `first` and no gap. -/
def readPiece (options : Options) (first : Char) (rest : List Char) : Piece :=
  match Kind.ofPunctuation? first with
  | some kind => { text := [first], verdict := .token kind .null, rest }
  | none =>
      match Kind.ofOperator? first with
      | some (alone, joined) => readOperator first alone joined rest
      | none =>
          if first = '"' then readString rest
          else if first.isDigit then readNumber first rest
          else if options.identifiers && startsWord first then readWord first rest
          else { text := [first], verdict := .error (.unexpectedCharacter first), rest }

/-- A fraction and the text left after it are the text read. -/
theorem readFraction_append (rest : List Char) :
    numeralText [] (readFraction rest).1 ++ (readFraction rest).2 = rest := by
  unfold readFraction
  split
  · rename_i after
    split
    · rename_i digit
      have nonempty : (after.takeWhile Char.isDigit).isEmpty = false := by
        cases after with
        | nil => simp at digit
        | cons first later => simp_all
      simp [numeralText, nonempty]
    · simp [numeralText]
  · simp [numeralText]

theorem numeralText_eq_append (whole fraction : List Char) :
    numeralText whole fraction = whole ++ numeralText [] fraction := by
  unfold numeralText
  split <;> simp

/-- A piece and the text left after it are the text read. -/
theorem readPiece_append (options : Options) (first : Char) (rest : List Char) :
    (readPiece options first rest).text ++ (readPiece options first rest).rest = first :: rest := by
  unfold readPiece
  split
  · rfl
  · split
    · unfold readOperator
      split <;> rfl
    · split
      · rename_i quote
        subst quote
        have whole := List.takeWhile_append_dropWhile (p := (· != '"')) (l := rest)
        unfold readString
        split
        · rename_i ending
          simpa [ending] using whole
        · rename_i ending
          simpa [ending] using whole
      · split
        · simp only [readNumber]
          rw [numeralText_eq_append, List.append_assoc, readFraction_append]
          simp
        · split
          · simp [readWord]
          · rfl

/-- A piece takes at least the first character. -/
theorem readPiece_text_ne_nil (options : Options) (first : Char) (rest : List Char) :
    (readPiece options first rest).text ≠ [] := by
  unfold readPiece
  split
  · simp
  · split
    · unfold readOperator
      split <;> simp
    · split
      · unfold readString
        split <;> simp
      · split
        · simp only [readNumber]
          rw [numeralText_eq_append]
          simp
        · split <;> simp [readWord]

/-- The text left after a piece is shorter than the text read. -/
theorem length_readPiece_rest_lt (options : Options) (first : Char) (rest : List Char) :
    (readPiece options first rest).rest.length < (first :: rest).length := by
  have lengths := congrArg List.length (readPiece_append options first rest)
  have taken := List.length_pos_iff.mpr (readPiece_text_ne_nil options first rest)
  rw [List.length_append] at lengths
  omega

end LoxTokens
