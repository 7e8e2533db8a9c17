import LoxTokens.DecimalDigit
import LoxTokens.Lines

/-!
# Expectations of a fixture

A fixture is a source text whose comments say what printing its tokens must show: the lines of both
output streams and the exit code.  On each line the first marker that fits counts.  Without a word
about the exit code, a fixture that expects errors expects the exit code of lexical errors.
-/

namespace LoxTokens

/-- Why the digits of an expected exit code cannot be read. -/
inductive NumeralFault where
  /-- The number exceeds the greatest exit code. -/
  | tooLarge
  /-- A digit belongs to a script other than the Latin one. -/
  | invalidDigit
  deriving DecidableEq

namespace NumeralFault

/-- Description of a fault. -/
def message : NumeralFault → String
  | tooLarge => "number too large to fit in target type"
  | invalidDigit => "invalid digit found in string"

/-- Class of a fault. -/
def kind : NumeralFault → String
  | tooLarge => "PosOverflow"
  | invalidDigit => "InvalidDigit"

end NumeralFault

/-- What printing the tokens of a fixture must show. -/
structure Expectations where
  /-- Lines of the standard output. -/
  output : Array String
  /-- Lines of the error stream. -/
  errors : Array String
  /-- Exit code. -/
  exitCode : Nat
  deriving DecidableEq

namespace Expectations

/-- The text after the leftmost place where a marker stands before an accepted text. -/
def after? (marker : List Char) (accepted : List Char → Bool) : List Char → Option (List Char)
  | [] => none
  | character :: rest =>
      let text := character :: rest
      if marker.isPrefixOf text && accepted (text.drop marker.length) then
        some (text.drop marker.length)
      else after? marker accepted rest

/-- The marker of a line of the standard output. -/
def outputMarker : List Char := "// expect: ".toList

/-- The marker of a line of the error stream. -/
def errorMarker : List Char := "// expect error: ".toList

/-- The marker of the exit code. -/
def exitMarker : List Char := "// expect exit: ".toList

/-- The text after a marker that any text may follow. -/
def afterMarker? (marker : List Char) (text : List Char) : Option (List Char) :=
  after? marker (fun _ => true) text

/-- The text after the marker of the exit code where a digit follows it. -/
def afterExitMarker? (text : List Char) : Option (List Char) :=
  after? exitMarker (fun rest => rest.head?.any DecimalDigit.isDecimalDigit) text

/-- What one line of a fixture says. -/
inductive Remark where
  /-- A line of the standard output. -/
  | output (line : List Char)
  /-- A line of the error stream. -/
  | error (line : List Char)
  /-- The digits of the exit code. -/
  | exit (digits : List Char)
  deriving DecidableEq

/-- What a line says, by the first marker that fits. -/
def remark? (line : List Char) : Option Remark :=
  match afterMarker? outputMarker line with
  | some text => some (.output text)
  | none =>
      match afterMarker? errorMarker line with
      | some text => some (.error text)
      | none =>
          (afterExitMarker? line).map fun text =>
            .exit (text.takeWhile DecimalDigit.isDecimalDigit)

/-- Greatest exit code that can be expected. -/
def exitLimit : Nat := 2147483647

/-- Read digits after those that gave `value`; the first fault counts. -/
def readDigits (value : Nat) : List Char → Except NumeralFault Nat
  | [] => .ok value
  | digit :: digits =>
      if digit.isDigit then
        let next := value * 10 + (digit.toNat - '0'.toNat)
        if next ≤ exitLimit then readDigits next digits else .error .tooLarge
      else .error .invalidDigit

/-- Take one line into account. -/
def addLine (expectations : Expectations) (line : List Char) : Except NumeralFault Expectations :=
  match remark? line with
  | none => .ok expectations
  | some (.output text) =>
      .ok { expectations with output := expectations.output.push (String.ofList text) }
  | some (.error text) =>
      .ok { expectations with errors := expectations.errors.push (String.ofList text) }
  | some (.exit digits) =>
      match readDigits 0 digits with
      | .ok exitCode => .ok { expectations with exitCode }
      | .error fault => .error fault

/-- Take lines into account one after the other. -/
def addLines (expectations : Expectations) : List (List Char) → Except NumeralFault Expectations
  | [] => .ok expectations
  | line :: lines =>
      match expectations.addLine line with
      | .ok expectations => expectations.addLines lines
      | .error fault => .error fault

/-- Exit code expected with errors, unless the fixture gives another. -/
def defaultErrorCode : Nat := 65

/-- Fill in the exit code of a fixture that expects errors and nowhere gives an exit code. -/
def withDefaultCode (contents : List Char) (expectations : Expectations) : Expectations :=
  if !expectations.errors.isEmpty && (afterExitMarker? contents).isNone then
    { expectations with exitCode := defaultErrorCode }
  else expectations

/-- Read the expectations of a fixture. -/
def read (contents : List Char) : Except NumeralFault Expectations :=
  (addLines { output := #[], errors := #[], exitCode := 0 } (Lines.cut contents)).map
    (withDefaultCode contents)

end Expectations
end LoxTokens
