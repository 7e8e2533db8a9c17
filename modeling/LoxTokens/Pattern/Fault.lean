import LoxTokens.Lines

/-!
# Faults of patterns

A text that is not a pattern has a fault: a cause and the stretch of the text that shows it, and
perhaps an earlier stretch that it clashes with.  The account of a fault quotes the text and marks
these stretches under its lines.
-/

namespace LoxTokens
namespace Pattern

/-- A point between the characters of a text, by line and column, both counted from one. -/
structure Point where
  /-- Number of the line. -/
  line : Nat
  /-- Number of the character on the line that follows the point. -/
  column : Nat
  deriving DecidableEq

namespace Point

/-- The first point of a text. -/
def start : Point := { line := 1, column := 1 }

/-- The point behind a character that follows a point. -/
def after (point : Point) (character : Char) : Point :=
  if character = '\n' then { line := point.line + 1, column := 1 }
  else { point with column := point.column + 1 }

end Point

/-- A stretch of a text. -/
structure Span where
  /-- Where it begins. -/
  start : Point
  /-- Where it ends. -/
  stop : Point
  deriving DecidableEq

namespace Span

/-- The empty stretch at a point. -/
def emptyAt (point : Point) : Span := { start := point, stop := point }

/-- Whether a stretch lies on one line. -/
def isOnOneLine (span : Span) : Bool := span.start.line == span.stop.line

end Span

/-- What is wrong with a text that is not a pattern. -/
inductive Cause where
  | classEscapeInvalid
  | classRangeInvalid
  | classRangeLiteral
  | classUnclosed
  | decimalInvalid
  | escapeHexEmpty
  | escapeHexInvalid
  | escapeHexInvalidDigit
  | escapeUnexpectedEnd
  | escapeUnrecognized
  | flagDanglingNegation
  | flagDuplicate
  | flagRepeatedNegation
  | flagUnexpectedEnd
  | flagUnrecognized
  | groupNameDuplicate
  | groupNameEmpty
  | groupNameInvalid
  | groupNameUnexpectedEnd
  | groupUnclosed
  | groupUnopened
  | tooDeeplyNested
  | repetitionCountInvalid
  | repetitionCountEmpty
  | repetitionCountUnclosed
  | repetitionMissing
  | wordBorderUnclosed
  | wordBorderUnrecognized
  | wordBorderUnexpectedEnd
  | propertyNameInvalid
  | backreference
  | lookAround
  | unicodeNotAllowed
  | notText
  | propertyUnknown
  | propertyValueUnknown
  deriving DecidableEq

/-- How deep the parts of a pattern may be nested. -/
def nestingLimit : Nat := 250

namespace Cause

/-- What is said about a cause. -/
def message : Cause → String
  | classEscapeInvalid => "invalid escape sequence found in character class"
  | classRangeInvalid => "invalid character class range, the start must be <= the end"
  | classRangeLiteral => "invalid range boundary, must be a literal"
  | classUnclosed => "unclosed character class"
  | decimalInvalid => "decimal literal invalid"
  | escapeHexEmpty => "hexadecimal literal empty"
  | escapeHexInvalid => "hexadecimal literal is not a Unicode scalar value"
  | escapeHexInvalidDigit => "invalid hexadecimal digit"
  | escapeUnexpectedEnd => "incomplete escape sequence, reached end of pattern prematurely"
  | escapeUnrecognized => "unrecognized escape sequence"
  | flagDanglingNegation => "dangling flag negation operator"
  | flagDuplicate => "duplicate flag"
  | flagRepeatedNegation => "flag negation operator repeated"
  | flagUnexpectedEnd => "expected flag but got end of regex"
  | flagUnrecognized => "unrecognized flag"
  | groupNameDuplicate => "duplicate capture group name"
  | groupNameEmpty => "empty capture group name"
  | groupNameInvalid => "invalid capture group character"
  | groupNameUnexpectedEnd => "unclosed capture group name"
  | groupUnclosed => "unclosed group"
  | groupUnopened => "unopened group"
  | tooDeeplyNested =>
      "exceed the maximum number of nested parentheses/brackets (" ++ nestingLimit.repr ++ ")"
  | repetitionCountInvalid => "invalid repetition count range, the start must be <= the end"
  | repetitionCountEmpty => "repetition quantifier expects a valid decimal"
  | repetitionCountUnclosed => "unclosed counted repetition"
  | repetitionMissing => "repetition operator missing expression"
  | wordBorderUnclosed =>
      "special word boundary assertion is either unclosed or contains an invalid character"
  | wordBorderUnrecognized =>
      "unrecognized special word boundary assertion, " ++
        "valid choices are: start, end, start-half or end-half"
  | wordBorderUnexpectedEnd =>
      "found either the beginning of a special word boundary or a bounded repetition on a \\b " ++
        "with an opening brace, but no closing brace"
  | propertyNameInvalid => "invalid Unicode character class"
  | backreference => "backreferences are not supported"
  | lookAround => "look-around, including look-ahead and look-behind, is not supported"
  | unicodeNotAllowed => "Unicode not allowed here"
  | notText => "pattern can match invalid UTF-8"
  | propertyUnknown => "Unicode property not found"
  | propertyValueUnknown => "Unicode property value not found"

end Cause

/-- What is wrong with a text that is not a pattern, and where. -/
structure Blemish where
  /-- What is wrong. -/
  cause : Cause
  /-- The stretch that shows it. -/
  span : Span
  /-- An earlier stretch that it clashes with. -/
  earlier : Option Span
  deriving DecidableEq

namespace Blemish

/-- The stretches to mark, in order. -/
def spans (blemish : Blemish) : List Span := blemish.earlier.toList ++ [blemish.span]

/-- The stretches to mark that lie on a given line. -/
def spansOnLine (blemish : Blemish) (line : Nat) : List Span :=
  blemish.spans.filter fun span => span.isOnOneLine && span.start.line == line

/-- Marks for stretches of one line, from a column on. -/
def marksFrom (column : Nat) : List Span → List Char
  | [] => []
  | span :: rest =>
      let first := max column span.start.column
      let width := max 1 (span.stop.column - span.start.column)
      List.replicate (first - column) ' ' ++ List.replicate width '^' ++
        marksFrom (first + width) rest

/-- A number that fills a number of columns. -/
def padLeft (width number : Nat) : String :=
  String.ofList (List.replicate (width - number.repr.length) ' ') ++ number.repr

/-- A quoted line, with marks below it where there is something to mark. -/
def quoteLine (blemish : Blemish) (width number : Nat) (line : List Char) : String :=
  let margin := if width = 0 then "    " else padLeft width number ++ ": "
  let marks := marksFrom 1 (blemish.spansOnLine number)
  margin ++ String.ofList line ++ "\n" ++
    if marks.isEmpty then ""
    else String.ofList (List.replicate margin.length ' ' ++ marks) ++ "\n"

/-- All lines of a text, quoted; the numbers of several lines are given in front of them. -/
def quote (blemish : Blemish) (text : List Char) : String :=
  let lines := Lines.cut text
  let count := if text.getLast? = some '\n' then lines.length + 1 else lines.length
  let width := if count ≤ 1 then 0 else count.repr.length
  String.join (lines.zipIdx.map fun (line, index) => blemish.quoteLine width (index + 1) line)

/-- Where a stretch of several lines begins and ends. -/
def lineNote (span : Span) : String :=
  "on line " ++ span.start.line.repr ++ " (column " ++ span.start.column.repr ++
    ") through line " ++ span.stop.line.repr ++ " (column " ++ (span.stop.column - 1).repr ++ ")"

/-- Full account of what is wrong with a text. -/
def account (blemish : Blemish) (text : List Char) : String :=
  let closing := "error: " ++ blemish.cause.message
  let quoted := blemish.quote text
  if text.contains '\n' then
    let divider := String.ofList (List.replicate 79 '~') ++ "\n"
    let long := blemish.spans.filter fun span => !span.isOnOneLine
    let notes := String.join (long.map fun span => lineNote span ++ "\n")
    "regex parse error:\n" ++ divider ++ quoted ++ divider ++ notes ++ closing
  else "regex parse error:\n" ++ quoted ++ closing

end Blemish

/-- Greatest room, in bytes, that a pattern may be reckoned to take. -/
def roomLimit : Nat := 10485760

/-- Why a text cannot be used as a pattern. -/
inductive Fault where
  /-- It is not a pattern. -/
  | blemish (blemish : Blemish)
  /-- It stands for a pattern that takes too much room. -/
  | tooLarge
  deriving DecidableEq

namespace Fault

/-- Full account of why a text cannot be used as a pattern. -/
def account (text : List Char) : Fault → String
  | blemish found => found.account text
  | tooLarge => "Compiled regex exceeds size limit of " ++ roomLimit.repr ++ " bytes."

end Fault
end Pattern
end LoxTokens
