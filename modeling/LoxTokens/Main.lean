import LoxTokens.CommandLine
import Std.Time.Format

/-!
# The program

Reads the file that the command line names, runs the scan on it, and puts the two output streams and
the exit code where they belong.
-/

namespace LoxTokens
namespace Main

/-- The present time, as it stands in log lines. -/
def timeStamp : IO String := do
  let instant ← Std.Time.Timestamp.now
  let now := Std.Time.DateTime.ofTimestampWithZone instant Std.Time.TimeZone.UTC
  return now.format "uuuu-MM-dd" ++ "T" ++ now.format "HH:mm:ss" ++ "Z"

/-- The number of an error, which some calls report with its sign changed. -/
def errorNumber (code : UInt32) : Nat := min code.toNat (0 - code).toNat

/-- The error that the operating system reported. -/
def systemError : IO.Error → OsError
  | .noFileOrDirectory .. => .notFound
  | .inappropriateType _ code details
  | .permissionDenied _ code details
  | .invalidArgument _ code details => .ofCode (errorNumber code) details
  | error => .ofCode 5 (toString error)

/-- The bytes of a file. -/
def readFile (filename : String) : IO (Except OsError (List UInt8)) := do
  try
    return .ok (← IO.FS.readBinFile filename).toList
  catch error => return .error (systemError error)

/-- The result of reading the file that an invocation names. -/
def readInput : Option Invocation → IO (Except OsError (List UInt8))
  | some (.tokenize filename ..) => readFile filename
  | _ => return .error .notFound

/-- Write a text to a stream and flush it, and say whether that failed. -/
def rejects (stream : IO.FS.Stream) (text : String) : IO Bool := do
  try
    stream.putStr text
    stream.flush
    return false
  catch _ => return true

end Main
end LoxTokens

open LoxTokens in
/-- Run the program; the variable `LOXSCAN_LOG` holds the log filter. -/
def main (words : List String) : IO UInt32 := do
  let input ← Main.readInput (Invocation.ofWords? words)
  let environment : Environment :=
    { read := fun _ => input
      logFilter := ← IO.getEnv "LOXSCAN_LOG"
      outputFull := false
      errorsFull := false }
  let outputFull ← Main.rejects (← IO.getStdout) (CommandLine.run environment words).output
  let environment := { environment with outputFull }
  let _ ← Main.rejects (← IO.getStderr)
    (CommandLine.errorText (← Main.timeStamp) environment words)
  return (CommandLine.run environment words).exitCode.toUInt32
