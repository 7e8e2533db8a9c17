import LoxTokens.Decimal
import LoxTokens.Token.Kind

/-!
# Tokens

A token is a kind with the source text it was made from, the value that the text denotes, and the
line and byte offset where it starts.
-/

namespace LoxTokens

/-- The value that a token carries. -/
inductive Literal where
  /-- No value. -/
  | null
  /-- The text between the quotes of a string. -/
  | string (value : String)
  /-- The value of a number. -/
  | number (value : Binary64)
  deriving DecidableEq

namespace Literal

/-- Printed form of a value. -/
def text : Literal → String
  | null => "null"
  | string value => value
  | number value => value.text

/-- Equality of values, numbers being compared as numbers. -/
def sameValue : Literal → Literal → Bool
  | null, null => true
  | string left, string right => left == right
  | number left, number right => left.sameNumber right
  | _, _ => false

end Literal

/-- A token of the source text. -/
structure Token where
  /-- What the token is. -/
  kind : Kind
  /-- The source text of the token. -/
  lexeme : String
  /-- The value of the token. -/
  literal : Literal
  /-- Line on which the token starts, the first line being `1`. -/
  line : UInt32
  /-- Byte offset of the lexeme in the source. -/
  start : Nat
  deriving DecidableEq

namespace Token

/-- The token that marks the end of the source. -/
def eof (line : UInt32) (start : Nat) : Token :=
  { kind := .eof, lexeme := "", literal := .null, line, start }

/-- Byte offset just after the lexeme. -/
def stop (token : Token) : Nat := token.start + token.lexeme.utf8ByteSize

/-- Printed form: the name of the kind, the lexeme and the value. -/
def text (token : Token) : String :=
  token.kind.name ++ " " ++ token.lexeme ++ " " ++ token.literal.text

/-- Equality field by field, numbers being compared as numbers. -/
def sameToken (left right : Token) : Bool :=
  decide (left.kind = right.kind) && left.lexeme == right.lexeme &&
    left.literal.sameValue right.literal && left.line == right.line && left.start == right.start

end Token
end LoxTokens
