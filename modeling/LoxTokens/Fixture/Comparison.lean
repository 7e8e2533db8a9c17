import LoxTokens.Lines
import LoxTokens.Utf8

/-!
# Comparing output with expectations

Lines are compared position by position.  Each actual line uses up the next expected one, and what
is still expected at the end is missing.  Every position at which the two sides do not agree adds
one failure to those found before.
-/

namespace LoxTokens

/-- A position at which output is not as expected. -/
inductive Mismatch where
  /-- Both sides have a line and the lines differ. -/
  | different (expected actual : String)
  /-- There is a line where none is expected. -/
  | unexpected (actual : String)
  /-- A line is missing. -/
  | missing (expected : String)
  deriving DecidableEq

namespace Mismatch

/-- Description of a mismatch on a named stream. -/
def describe (stream : String) : Mismatch → String
  | different expected actual => stream ++ ": expected: " ++ expected ++ ", actual: " ++ actual
  | unexpected actual => stream ++ ": unexpected output: " ++ actual
  | missing expected => stream ++ ": expected, not found: " ++ expected

end Mismatch

/-- A comparison under way. -/
structure Comparison where
  /-- Lines still expected. -/
  expected : List String
  /-- Descriptions of the failures found so far. -/
  failures : Array String
  deriving DecidableEq

namespace Comparison

/-- Compare an actual line with the next expected one. -/
def addLine (stream : String) (comparison : Comparison) (actual : String) : Comparison :=
  match comparison.expected with
  | [] =>
      { comparison with
        failures := comparison.failures.push (Mismatch.describe stream (.unexpected actual)) }
  | line :: expected =>
      if line = actual then { comparison with expected }
      else
        { expected
          failures := comparison.failures.push (Mismatch.describe stream (.different line actual)) }

/-- Count what is still expected as missing. -/
def close (stream : String) (comparison : Comparison) : Comparison :=
  { expected := []
    failures :=
      comparison.failures ++
        comparison.expected.map fun line => Mismatch.describe stream (.missing line) }

/-- The lines of bytes that need not be a text. -/
def linesOf (bytes : List UInt8) : List String := Lines.ofText (Utf8.decodeLossy bytes)

/-- Compare all that a stream holds. -/
def addStream (stream : String) (comparison : Comparison) (actual : List UInt8) : Comparison :=
  ((linesOf actual).foldl (addLine stream) comparison).close stream

end Comparison
end LoxTokens
