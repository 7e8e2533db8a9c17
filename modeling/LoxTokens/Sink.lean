/-!
# Sinks

A sink takes bytes, and its operations may fail.  Whatever happens, a write adds the beginning of
its bytes, all of them exactly when it succeeds, and a flush adds nothing.  A channel is a sink in
memory that can be given a capacity and errors.
-/

namespace LoxTokens

/-- Why an operation on a sink failed. -/
structure IoError where
  /-- The class of the error. -/
  kind : String
  /-- Its description. -/
  message : String
  deriving DecidableEq

namespace IoError

/-- The error of a write that could not store all its bytes. -/
def writeZero : IoError := { kind := "WriteZero", message := "failed to write whole buffer" }

end IoError

/-- A destination of bytes. -/
class Sink (σ : Type) where
  /-- The bytes held. -/
  contents : σ → List UInt8
  /-- Write bytes; an error says that not all of them were stored. -/
  write : σ → List UInt8 → Option IoError × σ
  /-- Finish pending work. -/
  flush : σ → Option IoError × σ

/-- What every sink does to the bytes it holds. -/
class LawfulSink (σ : Type) [Sink σ] : Prop where
  /-- A write adds the beginning of its bytes, and all of them exactly when it succeeds. -/
  write_contents (sink : σ) (bytes : List UInt8) :
    ∃ stored lost, bytes = stored ++ lost ∧
      Sink.contents (Sink.write sink bytes).2 = Sink.contents sink ++ stored ∧
      ((Sink.write sink bytes).1 = none ↔ lost = [])
  /-- A flush keeps the bytes. -/
  flush_contents (sink : σ) : Sink.contents (Sink.flush sink).2 = Sink.contents sink

namespace Sink

/-- Write pieces one after the other, up to the first that fails. -/
def writeAll {σ : Type} [Sink σ] (sink : σ) : List (List UInt8) → Option IoError × σ
  | [] => (none, sink)
  | piece :: pieces =>
      match write sink piece with
      | (none, sink) => writeAll sink pieces
      | (some error, sink) => (some error, sink)

end Sink

/-- How a channel treats what it is asked to do. -/
structure ChannelSettings where
  /-- Greatest number of bytes that it holds, if bounded. -/
  capacity : Option Nat := none
  /-- The error of every write, if writes fail. -/
  writeError : Option IoError := none
  /-- The error of every flush, if flushes fail. -/
  flushError : Option IoError := none
  deriving DecidableEq

/-- A sink in memory. -/
structure Channel where
  /-- How it treats operations. -/
  settings : ChannelSettings
  /-- The bytes stored. -/
  stored : Array UInt8
  deriving DecidableEq

namespace Channel

/-- A channel that holds nothing yet. -/
def empty (settings : ChannelSettings) : Channel := { settings, stored := #[] }

/-- Store as many bytes as fit.  Writing no bytes always succeeds. -/
def write (channel : Channel) (bytes : List UInt8) : Option IoError × Channel :=
  if bytes.isEmpty then (none, channel)
  else
    match channel.settings.writeError with
    | some error => (some error, channel)
    | none =>
        match channel.settings.capacity with
        | none => (none, { channel with stored := channel.stored ++ bytes })
        | some capacity =>
            let room := capacity - channel.stored.size
            (if bytes.length ≤ room then none else some .writeZero,
              { channel with stored := channel.stored ++ bytes.take room })

instance : Sink Channel where
  contents channel := channel.stored.toList
  write := write
  flush channel := (channel.settings.flushError, channel)

instance : LawfulSink Channel where
  write_contents channel bytes := by
    simp only [Sink.write, Sink.contents, write]
    split
    · rename_i nothing
      exact ⟨[], [], by simpa using nothing, by simp, by simp⟩
    · rename_i something
      split
      · exact ⟨[], bytes, by simp, by simp, by simpa using something⟩
      · split
        · exact ⟨bytes, [], by simp, by simp, by simp⟩
        · rename_i capacity _
          refine ⟨_, _, (List.take_append_drop (capacity - channel.stored.size) bytes).symm,
            by simp, ?_⟩
          simp only [List.drop_eq_nil_iff]
          split <;> simp_all
  flush_contents _ := rfl

end Channel
end LoxTokens
