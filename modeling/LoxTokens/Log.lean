import LoxTokens.ControlSequence

/-!
# Log records

Parts of the program describe what they do in records of five levels.  A run also keeps the order
between records and the lines that it sends to the error stream; together they are its events.
-/

namespace LoxTokens

/-- How important a record is, from errors down to traces. -/
inductive Level where
  | error
  | warn
  | info
  | debug
  | trace
  deriving DecidableEq

namespace Level

/-- Every level, the most severe one first. -/
def all : List Level := [.error, .warn, .info, .debug, .trace]

/-- Printed name of a level. -/
def name : Level → String
  | error => "ERROR"
  | warn => "WARN"
  | info => "INFO"
  | debug => "DEBUG"
  | trace => "TRACE"

/-- How far a level is from the most severe one. -/
def verbosity : Level → Nat
  | error => 0
  | warn => 1
  | info => 2
  | debug => 3
  | trace => 4

end Level

/-- The part of the program that a record comes from. -/
inductive Target where
  /-- The command line. -/
  | program
  /-- Scanning. -/
  | scanner
  /-- The collection of diagnostics. -/
  | collector
  deriving DecidableEq

namespace Target

/-- Path under which a part of the program logs. -/
def path : Target → String
  | program => "loxscan"
  | scanner => "loxscan::lexer"
  | collector => "loxscan::diagnostics"

end Target

/-- A log record. -/
structure Record where
  /-- How important it is. -/
  level : Level
  /-- Where it comes from. -/
  target : Target
  /-- What it says. -/
  message : String
  deriving DecidableEq

namespace Record

/-- A message whose lines after the first are indented by four columns. -/
def indent (message : List Char) : List Char :=
  message.flatMap fun character =>
    if character = '\n' then ['\n', ' ', ' ', ' ', ' '] else [character]

/-- A level padded with blanks to five columns. -/
def levelColumn (level : Level) : String :=
  level.name ++ String.ofList (List.replicate (5 - level.name.length) ' ')

/-- What a line of a log says before the message: time, level and target of the record. -/
def header (time : String) (record : Record) : String :=
  "[" ++ time ++ " " ++ levelColumn record.level ++ " " ++ record.target.path ++ "] "

/--
The line that a record makes in a log, with the time at which it was written.  It is plain text, so
that a sequence left open in the message takes the newline with it.
-/
def line (time : String) (record : Record) : String :=
  let message := indent record.message.toList
  String.ofList (ControlSequence.strip ((record.header time).toList ++ message ++ ['\n']))

end Record

/-- Something that a run shows on its error stream. -/
inductive Event where
  /-- A log record, which a filter may hide. -/
  | record (record : Record)
  /-- A line of text, given without its newline. -/
  | line (text : String)
  /-- A complaint about the log filter, which is passed over otherwise. -/
  | warning (text : String)
  deriving DecidableEq

namespace Event

/-- The log record of an event, if it is one. -/
def record? : Event → Option Record
  | record value => some value
  | line _ | warning _ => none

/-- The line of an event that is not a log record. -/
def line? : Event → Option String
  | record _ | warning _ => none
  | line text => some text

end Event
end LoxTokens
