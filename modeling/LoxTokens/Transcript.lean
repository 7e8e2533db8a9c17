import LoxTokens.Collector
import LoxTokens.Scanner

/-!
# Transcripts of a scan

Scanning a source to its end puts the tokens into a list and reports the diagnostics to a collector.
The transcript also has the events of the scan in order: a trace of every token but the last one,
the events of every report, and a closing summary.
-/

namespace LoxTokens

/-- The record made for a token; the end of the source makes none. -/
def Token.traceRecord? (token : Token) : Option Record :=
  if token.kind = .eof then none
  else
    some
      { level := .trace
        target := .scanner
        message :=
          "line " ++ token.line.toNat.repr ++ " " ++ token.start.repr ++ ".." ++ token.stop.repr ++
            ": " ++ token.text }

/-- The record that pulling an item makes. -/
def Item.record? : Item → Option Record
  | .token value => value.traceRecord?
  | .diagnostic _ => none

/-- A scan so far. -/
structure Transcript (σ : Type) where
  /-- Tokens in source order. -/
  tokens : Array Token
  /-- The collector after the reports made so far. -/
  collector : Collector σ
  /-- What the scan showed, in order. -/
  events : Array Event

namespace Transcript

variable {σ : Type}

/-- A scan that has not started, with a collector that may hold earlier diagnostics. -/
def start (collector : Collector σ) : Transcript σ := { tokens := #[], collector, events := #[] }

/-- Take one item into account. -/
def add [Sink σ] (transcript : Transcript σ) : Item → Transcript σ
  | .token token =>
      { transcript with
        tokens := transcript.tokens.push token
        events := transcript.events ++ (token.traceRecord?.map Event.record).toList }
  | .diagnostic diagnostic =>
      let (collector, events) := transcript.collector.report diagnostic
      { transcript with collector, events := transcript.events ++ events }

/-- The record that closes a scan; it counts all diagnostics of the collector. -/
def summary (transcript : Transcript σ) : Record :=
  { level := .debug
    target := .scanner
    message :=
      "scanned " ++ transcript.tokens.size.repr ++ " tokens with " ++
        transcript.collector.reported.size.repr ++ " errors" }

/-- Close a scan with its summary. -/
def close (transcript : Transcript σ) : Transcript σ :=
  { transcript with events := transcript.events.push (.record transcript.summary) }

end Transcript

namespace Scanner

/-- Scan what is left of a source to its end, reporting every error. -/
def drain {σ : Type} [Sink σ] (scanner : Scanner) (collector : Collector σ) : Transcript σ :=
  (scanner.items.foldl Transcript.add (Transcript.start collector)).close

end Scanner
end LoxTokens
