import LoxTokens.Gap
import LoxTokens.Lexeme

/-!
# Lexical grammar

What source text is made of, stated without a reader.  Gaps are blanks and comments.  Each rule for
lexemes accepts some texts and gives its verdict on them.  The grammar leaves no choice: a lexeme
that stands alone is read whole, so its verdict is the one that reading gives.
-/

namespace LoxTokens

/-! ## Longest prefixes -/

/-- A text is the longest among the accepted prefixes of another one. -/
structure IsLongestPrefix (accepts : List Char → Prop) (text front : List Char) : Prop where
  /-- The text stands at the front. -/
  stands : front <+: text
  /-- The text is accepted. -/
  accepted : accepts front
  /-- No accepted text at the front is longer. -/
  longest : ∀ other, other <+: text → accepts other → other.length ≤ front.length

theorem IsLongestPrefix.unique {accepts : List Char → Prop} {text left right : List Char}
    (isLeft : IsLongestPrefix accepts text left) (isRight : IsLongestPrefix accepts text right) :
    left = right := by
  have left_le := isRight.longest left isLeft.stands isLeft.accepted
  have right_le := isLeft.longest right isRight.stands isRight.accepted
  have nested := List.prefix_of_prefix_length_le isLeft.stands isRight.stands left_le
  exact nested.eq_of_length (Nat.le_antisymm left_le right_le)

/-! ## Gaps -/

/-- Blanks and comments.  A comment lasts up to a newline or to the end of the text. -/
inductive GapText : List Char → Prop where
  | nil : GapText []
  | blank {character : Char} {rest : List Char} :
      character ∈ [' ', '\t', '\r', '\n'] → GapText rest → GapText (character :: rest)
  | comment {body rest : List Char} :
      '\n' ∉ body → GapText ('\n' :: rest) → GapText ('/' :: '/' :: (body ++ '\n' :: rest))
  | lastComment {body : List Char} : '\n' ∉ body → GapText ('/' :: '/' :: body)

/-- Blanks and comments, each comment with its newline.  Whatever follows, such a gap is over. -/
inductive ClosedGap : List Char → Prop where
  | nil : ClosedGap []
  | blank {character : Char} {rest : List Char} :
      character ∈ [' ', '\t', '\r', '\n'] → ClosedGap rest → ClosedGap (character :: rest)
  | comment {body rest : List Char} :
      '\n' ∉ body → ClosedGap rest → ClosedGap ('/' :: '/' :: (body ++ '\n' :: rest))

/-- A text that ends where a line ends: it is empty, or its last character is a newline. -/
def EndsLine (text : List Char) : Prop := text = [] ∨ ['\n'] <:+ text

/-! ## Lexemes -/

/-- The lexemes that have only one spelling, with their kinds. -/
def symbols : List (List Char × Kind) :=
  [(['('], .leftParen), ([')'], .rightParen), (['{'], .leftBrace), (['}'], .rightBrace),
    ([','], .comma), (['.'], .dot), (['-'], .minus), (['+'], .plus), ([';'], .semicolon),
    (['/'], .slash), (['*'], .star), (['!'], .bang), (['!', '='], .bangEqual), (['='], .equal),
    (['=', '='], .equalEqual), (['<'], .less), (['<', '='], .lessEqual), (['>'], .greater),
    (['>', '='], .greaterEqual)]

/-- One digit or more. -/
def IsDigits (text : List Char) : Prop := text ≠ [] ∧ ∀ character ∈ text, character.isDigit

/-- Digits with an optional fraction, and the number that they write. -/
inductive Numeral : List Char → Decimal → Prop where
  | whole {digits : List Char} :
      IsDigits digits → Numeral digits { digits := Nat.ofDigitChars 10 digits 0, places := 0 }
  | fraction {whole fraction : List Char} :
      IsDigits whole → IsDigits fraction →
        Numeral (whole ++ '.' :: fraction)
          { digits := Nat.ofDigitChars 10 (whole ++ fraction) 0, places := fraction.length }

/-- A letter or an underscore, followed by letters, digits and underscores. -/
def IsWord : List Char → Prop
  | [] => False
  | first :: rest =>
      (first.isAlpha ∨ first = '_') ∧
        ∀ character ∈ rest, character.isAlphanum ∨ character = '_'

/-- A lexeme and the verdict of its rule.  A number that is too large is a lexeme but no token. -/
inductive Lexeme (options : Options) : List Char → Verdict → Prop where
  | symbol {text : List Char} {kind : Kind} :
      (text, kind) ∈ symbols → Lexeme options text (.token kind .null)
  | string {body : List Char} :
      '"' ∉ body →
        Lexeme options ('"' :: (body ++ ['"']))
          (.token .string (.string (String.ofList body)))
  | number {text : List Char} {decimal : Decimal} :
      Numeral text decimal → decimal.toBinary64.isFinite →
        Lexeme options text (.token .number (.number decimal.toBinary64))
  | overflow {text : List Char} {decimal : Decimal} :
      Numeral text decimal → decimal.toBinary64.isFinite = false →
        Lexeme options text (.error (.invalidNumber (String.ofList text)))
  | reserved {text : List Char} {word : Keyword} :
      options.identifiers → IsWord text → String.ofList text = word.spelling →
        Lexeme options text (.token (.keyword word) .null)
  | identifier {text : List Char} :
      options.identifiers → IsWord text → (∀ word : Keyword, String.ofList text ≠ word.spelling) →
        Lexeme options text (.token .identifier .null)

/-- Whether some rule accepts a text. -/
def IsLexeme (options : Options) (text : List Char) : Prop := ∃ verdict, Lexeme options text verdict

/--
What is taken from the front of a text that starts with no gap, and what is left.  The longest
lexeme in front is taken.  Without one, a quote takes everything, and any other character is taken
by itself.
-/
inductive Munches (options : Options) : List Char → Verdict → List Char → Prop where
  | lexeme {text rest : List Char} {verdict : Verdict} :
      IsLongestPrefix (IsLexeme options) (text ++ rest) text → Lexeme options text verdict →
        Munches options text verdict rest
  | openString {body : List Char} :
      '"' ∉ body → Munches options ('"' :: body) (.error .unterminatedString) []
  | unexpected {first : Char} {rest : List Char} :
      first ≠ '"' → (∀ front, front <+: first :: rest → ¬ IsLexeme options front) →
        Munches options [first] (.error (.unexpectedCharacter first)) rest

end LoxTokens
