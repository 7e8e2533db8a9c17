import LoxTokens.CodePoints
import LoxTokens.Pattern.Fault

/-!
# Pattern expressions

An expression is what the text of a pattern says, part by part, with the stretch of the text that
each part takes.  What it means depends on the flags that are set where it stands.
-/

namespace LoxTokens
namespace Pattern

/-- A switch that changes what expressions mean, or how they are written. -/
inductive Flag where
  /-- Letters that differ in case only are the same. -/
  | caseInsensitive
  /-- Lines have beginnings and ends. -/
  | multiLine
  /-- A dot stands for a line ending, too. -/
  | dotMatchesNewline
  /-- Repetitions prefer to be short. -/
  | swapGreed
  /-- Characters are not taken for bytes. -/
  | unicode
  /-- Carriage returns end lines. -/
  | carriageReturn
  /-- White space and comments do not count. -/
  | verbose
  deriving DecidableEq

/-- A flag and whether it is set or cleared. -/
structure FlagChange where
  /-- The flag. -/
  flag : Flag
  /-- Whether it is set. -/
  enabled : Bool
  deriving DecidableEq

/-- A class of characters with a letter of its own. -/
inductive Shorthand where
  /-- Decimal digits. -/
  | digit
  /-- White space. -/
  | space
  /-- Characters of words. -/
  | word
  deriving DecidableEq

/-- A condition as it is written. -/
inductive Anchor where
  /-- The beginning of the text, or of a line. -/
  | start
  /-- The end of the text, or of a line. -/
  | stop
  /-- The beginning of the text. -/
  | textStart
  /-- The end of the text. -/
  | textEnd
  /-- The boundary of a word. -/
  | wordBoundary
  /-- No boundary of a word. -/
  | notWordBoundary
  /-- The beginning of a word. -/
  | wordStart
  /-- The end of a word. -/
  | wordEnd
  /-- No character of a word before. -/
  | wordStartHalf
  /-- No character of a word after. -/
  | wordEndHalf
  deriving DecidableEq

/-- How a set of characters is asked for by a property. -/
inductive Query where
  /-- By a single name. -/
  | name (name : String)
  /-- By a property and its value. -/
  | value (property value : String)
  deriving DecidableEq

/-- A character as it is written. -/
structure Literal where
  /-- Its stretch. -/
  span : Span
  /-- The character. -/
  character : Char
  /-- Whether two hexadecimal digits give it, so that it may be taken for a byte. -/
  isByte : Bool
  deriving DecidableEq

/-- What combines two sets of characters in brackets. -/
inductive SetOperation where
  /-- The members that they share. -/
  | intersection
  /-- The members of the first one only. -/
  | difference
  /-- The members of exactly one. -/
  | symmetricDifference
  deriving DecidableEq

/-- A set of characters as it is written in brackets. -/
inductive Bracket where
  /-- Nothing. -/
  | empty (span : Span)
  /-- A character. -/
  | literal (literal : Literal)
  /-- The characters from one to another. -/
  | range (first last : Literal)
  /-- A class of ASCII characters, or all other characters. -/
  | ascii (span : Span) (members : CodePoints) (negated : Bool)
  /-- A class with a letter of its own, or all other characters. -/
  | shorthand (span : Span) (kind : Shorthand) (negated : Bool)
  /-- The characters with a property, or all others. -/
  | property (span : Span) (query : Query) (negated : Bool)
  /-- Another set in brackets, or all characters but its members. -/
  | nested (span : Span) (body : Bracket) (negated : Bool)
  /-- The members of any of some sets. -/
  | union (span : Span) (items : List Bracket)
  /-- Two sets, combined. -/
  | operation (span : Span) (operation : SetOperation) (left right : Bracket)

namespace Bracket

/-- The stretch of a set. -/
def span : Bracket → Span
  | empty span => span
  | literal value => value.span
  | range first last => { start := first.span.start, stop := last.span.stop }
  | ascii span .. => span
  | shorthand span .. => span
  | property span .. => span
  | nested span .. => span
  | union span _ => span
  | operation span .. => span

end Bracket

/-- What the text of a pattern says. -/
inductive Expression where
  /-- Nothing. -/
  | empty (span : Span)
  /-- A change of flags that holds up to the end of the enclosing group. -/
  | flags (span : Span) (changes : List FlagChange)
  /-- A character. -/
  | literal (literal : Literal)
  /-- A dot. -/
  | dot (span : Span)
  /-- A condition. -/
  | anchor (span : Span) (anchor : Anchor)
  /-- A class with a letter of its own, or all other characters. -/
  | shorthand (span : Span) (kind : Shorthand) (negated : Bool)
  /-- The characters with a property, or all others. -/
  | property (span : Span) (query : Query) (negated : Bool)
  /-- A set in brackets, or all characters but its members. -/
  | bracketed (span : Span) (body : Bracket) (negated : Bool)
  /--
  An expression between `low` and `high` times, or any number of times from `low` on; as often as
  possible if `greedy`.
  -/
  | repetition (span : Span) (low : Nat) (high : Option Nat) (greedy : Bool) (body : Expression)
  /-- A group, with a change of flags that holds inside it. -/
  | group (span : Span) (captures : Bool) (changes : List FlagChange) (body : Expression)
  /-- One of some expressions. -/
  | alternatives (span : Span) (branches : List Expression)
  /-- Expressions one after another. -/
  | sequence (span : Span) (parts : List Expression)

namespace Expression

/-- The stretch of an expression. -/
def span : Expression → Span
  | empty span => span
  | flags span _ => span
  | literal value => value.span
  | dot span => span
  | anchor span _ => span
  | shorthand span .. => span
  | property span .. => span
  | bracketed span .. => span
  | repetition span .. => span
  | group span .. => span
  | alternatives span _ => span
  | sequence span _ => span

/-- Whether an expression stands for something that can be repeated. -/
def isRepeatable : Expression → Bool
  | empty _ | flags .. => false
  | _ => true

end Expression
end Pattern
end LoxTokens
