/-!
# Lexical errors

What can be wrong with source text, and a diagnostic, which is an error together with its line.  A
diagnostic is written in pieces, one after the other, and its text is their concatenation.
-/

namespace LoxTokens

/-- Why a stretch of source text is not a token. -/
inductive LexError where
  /-- A character that starts no token. -/
  | unexpectedCharacter (character : Char)
  /-- A string without a closing quote. -/
  | unterminatedString
  /-- A number too large to be represented. -/
  | invalidNumber (lexeme : String)
  deriving DecidableEq

namespace LexError

/-- The parts of the description of an error, in the order in which they are written. -/
def pieces : LexError → List String
  | unexpectedCharacter character => ["Unexpected character: ", String.singleton character]
  | unterminatedString => ["Unterminated string."]
  | invalidNumber lexeme => ["Invalid number: ", lexeme]

/-- Description of an error. -/
def message (error : LexError) : String := String.join error.pieces

end LexError

/-- A lexical error and the line on which it was detected. -/
structure Diagnostic where
  /-- Line on which the error was detected. -/
  line : UInt32
  /-- What is wrong. -/
  error : LexError
  deriving DecidableEq

namespace Diagnostic

/-- The parts of the text of a diagnostic. -/
def pieces (diagnostic : Diagnostic) : List String :=
  ["[line ", diagnostic.line.toNat.repr, "] Error: "] ++ diagnostic.error.pieces

/-- Text of a diagnostic. -/
def text (diagnostic : Diagnostic) : String := String.join diagnostic.pieces

end Diagnostic
end LoxTokens
