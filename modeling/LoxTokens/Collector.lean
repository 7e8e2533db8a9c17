import LoxTokens.Diagnostic
import LoxTokens.Log
import LoxTokens.Sink
import LoxTokens.Utf8

/-!
# Collecting diagnostics

A collector keeps the diagnostics reported to it and echoes the line of each one to a sink at once.
A failing sink never stops the collection: the first error of a write is held until the collector
is finished.
-/

namespace LoxTokens

/-- Diagnostics collected so far, over a sink that echoes them. -/
structure Collector (σ : Type) where
  /-- Where the lines go. -/
  sink : σ
  /-- Whether anything was reported. -/
  hadError : Bool
  /-- All diagnostics, the first one first. -/
  reported : Array Diagnostic
  /-- The error of the first report that could not be written in full. -/
  writeError : Option IoError
  deriving DecidableEq

namespace Collector

variable {σ : Type}

/-- A collector of nothing. -/
def ofSink (sink : σ) : Collector σ :=
  { sink, hadError := false, reported := #[], writeError := none }

/-- The record made before a diagnostic is written. -/
def reportRecord (diagnostic : Diagnostic) : Record :=
  { level := .debug
    target := .collector
    message :=
      "lexical error on line " ++ diagnostic.line.toNat.repr ++ ": " ++ diagnostic.error.message }

/-- The record made when a diagnostic could not be written. -/
def failureRecord (error : IoError) : Record :=
  { level := .warn
    target := .collector
    message := "failed to write diagnostic: " ++ error.message }

/-- The bytes that a diagnostic sends to a sink, piece by piece and ended by a newline. -/
def linePieces (diagnostic : Diagnostic) : List (List UInt8) :=
  (diagnostic.pieces ++ ["\n"]).map fun piece => Utf8.encode piece.toList

/-- Report a diagnostic.  The events are its record, its line, and a record if writing failed. -/
def report [Sink σ] (collector : Collector σ) (diagnostic : Diagnostic) :
    Collector σ × List Event :=
  let (failure, sink) := Sink.writeAll collector.sink (linePieces diagnostic)
  ({ sink
     hadError := true
     reported := collector.reported.push diagnostic
     writeError := collector.writeError.or failure },
    .record (reportRecord diagnostic) :: .line diagnostic.text ::
      (failure.map fun error => Event.record (failureRecord error)).toList)

/--
Flush the sink, unless a report failed.  The result is what went wrong, if anything, and the sink as
it is left.
-/
def settle [Sink σ] (collector : Collector σ) : Option IoError × σ :=
  match collector.writeError with
  | some error => (some error, collector.sink)
  | none => Sink.flush collector.sink

/-- Settle a collector and hand its sink back, unless something went wrong. -/
def finish [Sink σ] (collector : Collector σ) : Except IoError σ :=
  match collector.settle with
  | (some error, _) => .error error
  | (none, sink) => .ok sink

end Collector
end LoxTokens
