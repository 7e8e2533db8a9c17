import LoxTokens.CommandLine
import LoxTokens.FileTree
import LoxTokens.Fixture.Comparison
import LoxTokens.Fixture.Expectations

/-!
# Running a suite of fixtures

A suite runs a program on every fixture of a directory, in the byte order of their names, and then
on command lines that it must refuse.  Each step prints its name and what went wrong.  A step that
cannot be carried out ends the run at once.
-/

namespace LoxTokens

/-- What a program leaves behind. -/
structure ProgramResult where
  /-- Bytes on the standard output. -/
  output : List UInt8
  /-- Bytes on the error stream. -/
  errors : List UInt8
  /-- Exit code, unless the program was stopped by a signal. -/
  exitCode : Option Nat
  deriving DecidableEq

namespace ProgramResult

/-- Exit code, a stopped program counting as minus one. -/
def status (result : ProgramResult) : Int :=
  match result.exitCode with
  | some code => code
  | none => -1

end ProgramResult

/-- A program: what it does with the words of a command line, or why it cannot be started. -/
abbrev Program := List String → Except OsError ProgramResult

namespace Program

/-- The program that prints tokens, in an environment where both streams take everything. -/
def printer (time : String) (environment : Environment) : Program := fun words =>
  let outcome := CommandLine.run environment words
  .ok
    { output := Utf8.encode outcome.output.toList
      errors := Utf8.encode (CommandLine.errorText time environment words).toList
      exitCode := some outcome.exitCode }

end Program

/-- Why a step cannot be carried out. -/
inductive StepError where
  /-- The operating system reported an error. -/
  | system (error : OsError)
  /-- A fixture is not a text. -/
  | notText
  /-- The expected exit code of a fixture cannot be read. -/
  | exitCode (fault : NumeralFault)
  deriving DecidableEq

namespace StepError

/-- Full account of an error. -/
def account : StepError → String
  | system error => error.account
  | notText =>
      "Error \x7b kind: InvalidData, message: \"stream did not contain valid UTF-8\" \x7d"
  | exitCode fault => "ParseIntError \x7b kind: " ++ fault.kind ++ " \x7d"

end StepError

/-- Something in the directory of fixtures. -/
structure Fixture where
  /-- Its name. -/
  name : String
  /-- What it is. -/
  node : FileNode
  deriving DecidableEq

/-- A step of a run. -/
inductive Step where
  /-- Run the program on a fixture. -/
  | fixture (subject : Fixture)
  /-- Run the program on a command line that it must refuse. -/
  | usage (words : List String)
  deriving DecidableEq

namespace Step

/-- Printed name of a step. -/
def name : Step → String
  | fixture subject => subject.name
  | usage words => "usage [" ++ String.intercalate " " words ++ "]"

/-- First characters of a fixture that is scanned with identifiers. -/
def identifiersFlag : List Char := "// flags: --identifiers".toList

/-- The command line on which a fixture is run. -/
def fixtureWords (name : String) (contents : List Char) : List String :=
  ["tokenize", "./test/" ++ name] ++
    if identifiersFlag.isPrefixOf contents then ["--identifiers"] else []

/-- The failure of an exit code that is not as expected. -/
def exitFailures (expected : Nat) (actual : Int) : List String :=
  if actual = expected then []
  else ["exit: expected " ++ expected.repr ++ ", actual " ++ actual.repr]

/-- Compare a result with expectations. -/
def fixtureFailures (expectations : Expectations) (result : ProgramResult) : List String :=
  let output : Comparison := { expected := expectations.output.toList, failures := #[] }
  let errors : Comparison :=
    { expected := expectations.errors.toList
      failures := (output.addStream "stdout" result.output).failures }
  (errors.addStream "stderr" result.errors).failures.toList ++
    exitFailures expectations.exitCode result.status

/-- Compare a result with what refusing a command line must leave behind. -/
def usageFailures (result : ProgramResult) : List String :=
  exitFailures Outcome.usageCode result.status ++
    if result.output.isEmpty then []
    else ["stdout: unexpected output: " ++ String.ofList (Utf8.decodeLossy result.output)]

/-- The text of a fixture. -/
def readFixture : FileNode → Except StepError (List Char)
  | .directory => .error (.system .isADirectory)
  | .file bytes =>
      match Utf8.decode bytes with
      | .ok contents => .ok contents
      | .error _ => .error .notText

/-- Carry out a step, and list what went wrong. -/
def perform (program : Program) : Step → Except StepError (List String)
  | fixture subject => do
      let contents ← readFixture subject.node
      let expectations ← (Expectations.read contents).mapError .exitCode
      let result ← (program (fixtureWords subject.name contents)).mapError .system
      .ok (fixtureFailures expectations result)
  | usage words => do
      let result ← (program words).mapError .system
      .ok (usageFailures result)

/-- What is printed about a step that was carried out. -/
def reportText (name : String) (failures : List String) : String :=
  "Running test: " ++ name ++ " ... " ++
    if failures.isEmpty then "pass!\n"
    else "\x1b[0;31mfail!\x1b[0m\n" ++ String.join (failures.map (· ++ "\n"))

end Step

/-- What a run of a suite shows. -/
structure SuiteOutcome where
  /-- Text on the standard output. -/
  output : String
  /-- Whether a step carried out found a failure. -/
  failed : Bool
  /-- The error that ended the run, if one did. -/
  error : Option StepError
  deriving DecidableEq

namespace SuiteOutcome

/-- Exit code of a run. -/
def exitCode (outcome : SuiteOutcome) : Nat :=
  if outcome.failed || outcome.error.isSome then 1 else 0

/-- Text on the error stream. -/
def errorText (outcome : SuiteOutcome) : String :=
  match outcome.error with
  | some error => "Error: " ++ error.account ++ "\n"
  | none => ""

end SuiteOutcome

namespace Suite

/-- The command lines that the program must refuse. -/
def refusals : List (List String) := [[], ["scan", "file.lox"], ["tokenize"]]

/-- Whether a name comes no later than another in byte order. -/
def nameLe (left right : Fixture) : Bool :=
  decide (Utf8.encode left.name.toList ≤ Utf8.encode right.name.toList)

/-- The steps of a run over a directory of fixtures. -/
def steps (fixtures : List Fixture) : List Step :=
  (fixtures.mergeSort nameLe).map .fixture ++ refusals.map .usage

/-- Carry out steps in order, up to the first that cannot be carried out. -/
def runSteps (program : Program) : List Step → SuiteOutcome
  | [] => { output := "", failed := false, error := none }
  | step :: steps =>
      match step.perform program with
      | .error error => { output := "", failed := false, error := some error }
      | .ok failures =>
          let later := runSteps program steps
          { later with
            output := Step.reportText step.name failures ++ later.output
            failed := !failures.isEmpty || later.failed }

/-- Run a suite; without a directory of fixtures nothing is run. -/
def run (fixtures : Option (List Fixture)) (program : Program) : SuiteOutcome :=
  match fixtures with
  | none => { output := "", failed := false, error := some (.system .notFound) }
  | some fixtures => runSteps program (steps fixtures)

/-- The working directory in which the program finds the fixtures. -/
def workingTree (fixtures : List Fixture) : FileTree :=
  FileTree.ofPaths (fixtures.map fun fixture => ("test/" ++ fixture.name, fixture.node))

end Suite
end LoxTokens
