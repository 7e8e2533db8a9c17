import LoxTokens.CommandLine.Invocation
import LoxTokens.Log.Filter
import LoxTokens.OsError
import LoxTokens.Transcript

/-!
# The command line

Printing the tokens of a file.  Tokens go to the standard output, one line each.  Diagnostics and
log records go to the error stream in the order in which they arise, and the account of a failure
comes last.  Lexical errors, failures and refused command lines have an exit code of their own.
-/

namespace LoxTokens

/-- What a run of the program depends on besides its command line. -/
structure Environment where
  /-- Reading of a file. -/
  read : String → Except OsError (List UInt8)
  /-- The log filter set for the process, if there is one. -/
  logFilter : Option String
  /-- Whether every write to the standard output fails for lack of room. -/
  outputFull : Bool
  /-- Whether every write to the error stream fails for lack of room. -/
  errorsFull : Bool

/-- Why tokens could not be printed. -/
inductive Failure where
  /-- The operating system reported an error. -/
  | system (error : OsError)
  /-- The bytes of the file are not a text. -/
  | notText (bytes : List UInt8) (fault : Utf8.Fault)
  deriving DecidableEq

namespace Failure

/-- Full account of where bytes stop being a text. -/
def faultAccount (fault : Utf8.Fault) : String :=
  let length :=
    match fault.errorLength with
    | some length => "Some(" ++ length.repr ++ ")"
    | none => "None"
  "Utf8Error \x7b valid_up_to: " ++ fault.validUpTo.repr ++ ", error_len: " ++ length ++ " \x7d"

/-- Full account of a failure. -/
def account : Failure → String
  | system error => error.account
  | notText bytes fault =>
      "FromUtf8Error \x7b bytes: [" ++
        String.intercalate ", " (bytes.map fun byte => byte.toNat.repr) ++
        "], error: " ++ faultAccount fault ++ " \x7d"

end Failure

/-- What a run of the program shows. -/
structure Outcome where
  /-- Exit code. -/
  exitCode : Nat
  /-- Text on the standard output. -/
  output : String
  /-- What is sent to the error stream, in order. -/
  events : List Event
  deriving DecidableEq

namespace Outcome

/-- Text of an event on the error stream, under a filter and at a given time. -/
def eventText (time : String) (filter : Filter) : Event → String
  | .record record => if filter.shows record then record.line time else ""
  | .line text => text ++ "\n"
  | .warning text => "warning: " ++ text ++ ", ignoring it\n"

/-- Text on an error stream that takes everything. -/
def errorText (time : String) (filter : Filter) (outcome : Outcome) : String :=
  String.join (outcome.events.map (eventText time filter))

/-- Exit code of a run that failed. -/
def failureCode : Nat := 1

/-- Exit code of a command line that is refused. -/
def usageCode : Nat := 2

/-- Exit code of a run that found lexical errors. -/
def lexicalErrorCode : Nat := 65

/-- Exit code of a run that cannot complain about its log filter. -/
def silencedCode : Nat := 101

/-- The outcome of a run that fails after some events. -/
def failed (events : List Event) (failure : Failure) : Outcome :=
  { exitCode := failureCode
    output := ""
    events := events ++ [.line ("Error: " ++ failure.account)] }

/-- The outcome of a command line that is refused. -/
def refused : Outcome :=
  { exitCode := usageCode
    output := ""
    events := [.line "usage: loxscan [-d|--debug] tokenize <FILENAME> [--identifiers]"] }

/-- The outcome of a run that cannot complain about its log filter. -/
def silenced : Outcome := { exitCode := silencedCode, output := "", events := [] }

end Outcome

namespace CommandLine

/-- The lines of a list of tokens. -/
def tokenLines (tokens : List Token) : String :=
  String.join (tokens.map fun token => token.text ++ "\n")

/-- The record made before a file is read. -/
def openingRecord (filename : String) : Record :=
  { level := .info, target := .program, message := "tokenizing " ++ filename }

/-- The record made when not all diagnostics could be written. -/
def lossRecord (error : IoError) : Record :=
  { level := .error
    target := .program
    message := "could not write diagnostics: " ++ error.message }

/-- The error stream as a sink for diagnostics. -/
def errorStream (full : Bool) : Channel :=
  Channel.empty { writeError := if full then some OsError.storageFull.toIoError else none }

/-- Print the tokens of a text. -/
def printTokens (environment : Environment) (earlier : List Event) (source : List Char)
    (options : Options) : Outcome :=
  let transcript :=
    (Scanner.ofSource source options).drain (.ofSink (errorStream environment.errorsFull))
  let loss :=
    match transcript.collector.finish with
    | .error error => [Event.record (lossRecord error)]
    | .ok _ => []
  let events := earlier ++ transcript.events.toList ++ loss
  if environment.outputFull then .failed events (.system .storageFull)
  else
    { exitCode := if transcript.collector.hadError then Outcome.lexicalErrorCode else 0
      output := tokenLines transcript.tokens.toList
      events }

/-- The filter set for the process, and what cannot be read in it. -/
def readFilter (environment : Environment) : Filter × List Filter.Fault :=
  Filter.read (environment.logFilter.getD "").toList

/-- The complaints about the filter set for the process. -/
def warnings (environment : Environment) : List Event :=
  (readFilter environment).2.map fun fault => .warning fault.message

/-- Print the tokens of a file, after some events. -/
def printFile (environment : Environment) (earlier : List Event) (filename : String)
    (options : Options) : Outcome :=
  let opening := earlier ++ [Event.record (openingRecord filename)]
  match environment.read filename with
  | .error error => .failed opening (.system error)
  | .ok bytes =>
      match Utf8.decode bytes with
      | .error fault => .failed opening (.notText bytes fault)
      | .ok source => printTokens environment opening source options

/--
Print the tokens of a file.  What cannot be read in the log filter is reported before all else, and
nothing is done when that is impossible.
-/
def tokenize (environment : Environment) (filename : String) (options : Options) : Outcome :=
  if environment.errorsFull && !(warnings environment).isEmpty then .silenced
  else printFile environment (warnings environment) filename options

/-- The text that names the program and its version. -/
def versionText : String := "loxscan 0.1.0\n"

/-- Do what an invocation asks for. -/
def perform (environment : Environment) : Invocation → Outcome
  | .version =>
      { exitCode := 0, output := if environment.outputFull then "" else versionText, events := [] }
  | .tokenize filename identifiers _ => tokenize environment filename { identifiers }

/-- Run the program on the words of a command line. -/
def run (environment : Environment) (words : List String) : Outcome :=
  match Invocation.ofWords? words with
  | some invocation => perform environment invocation
  | none => .refused

/-- The log filter of a run. -/
def filterOf (environment : Environment) (words : List String) : Filter :=
  match Invocation.ofWords? words with
  | some (.tokenize _ _ debug) => (readFilter environment).1.configure debug
  | _ => (readFilter environment).1.configure false

/-- What a run leaves on the error stream. -/
def errorText (time : String) (environment : Environment) (words : List String) : String :=
  if environment.errorsFull then ""
  else (run environment words).errorText time (filterOf environment words)

end CommandLine
end LoxTokens
