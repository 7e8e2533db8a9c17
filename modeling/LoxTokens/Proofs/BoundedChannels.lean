import LoxTokens.Proofs.Reporting

/-!
# Channels of bounded capacity

A channel that holds a fixed number of bytes at most is filled to the last byte.  Whatever is
reported over it, it holds the first bytes of all lines.  The reports that fail are those from the
first one on with which the lines grow longer than the channel.
-/

namespace LoxTokens

namespace Channel

/-- A channel holds a fixed number of bytes at most, and its writes fail for no other reason. -/
structure IsBounded (capacity : Nat) (channel : Channel) : Prop where
  /-- The capacity is set. -/
  capacity_eq : channel.settings.capacity = some capacity
  /-- No other error of writes is set. -/
  unfailing : channel.settings.writeError = none

/-- A channel with more bytes, as far as they fit. -/
def filledWith (channel : Channel) (capacity : Nat) (bytes : List UInt8) : Channel :=
  { channel with stored := ((channel.stored.toList ++ bytes).take capacity).toArray }

/-- The failure to store so many bytes in all, unless they fit. -/
def overflow? (capacity size : Nat) : Option IoError :=
  if size ≤ capacity then none else some .writeZero

variable {capacity : Nat} {channel : Channel}

theorem IsBounded.filledWith (bounded : channel.IsBounded capacity) (bytes : List UInt8) :
    (channel.filledWith capacity bytes).IsBounded capacity :=
  ⟨bounded.capacity_eq, bounded.unfailing⟩

theorem filledWith_nil (room : channel.stored.size ≤ capacity) :
    channel.filledWith capacity [] = channel := by
  have whole : channel.stored.toList.take capacity = channel.stored.toList :=
    List.take_of_length_le room
  rw [Channel.filledWith, List.append_nil, whole]

/-- Behind bytes that fit, a channel is filled with the bytes that follow. -/
theorem filledWith_append {front : List UInt8}
    (fits : channel.stored.size + front.length ≤ capacity) (back : List UInt8) :
    channel.filledWith capacity (front ++ back) =
      (channel.filledWith capacity front).filledWith capacity back := by
  have whole : (channel.stored.toList ++ front).take capacity = channel.stored.toList ++ front :=
    List.take_of_length_le (by simpa using fits)
  simp only [filledWith, whole, List.append_assoc]

/-- Once a channel is full, nothing that follows is stored. -/
theorem filledWith_full {front : List UInt8}
    (full : capacity ≤ channel.stored.size + front.length) (back : List UInt8) :
    channel.filledWith capacity (front ++ back) = channel.filledWith capacity front := by
  have longer : capacity ≤ (channel.stored.toList ++ front).length := by simpa using full
  rw [filledWith, ← List.append_assoc, List.take_append_of_le_length longer, filledWith]

/-- A write stores what fits, and fails unless all of it does. -/
theorem write_bounded (bounded : channel.IsBounded capacity)
    (room : channel.stored.size ≤ capacity) (bytes : List UInt8) :
    channel.write bytes =
      (overflow? capacity (channel.stored.size + bytes.length),
        channel.filledWith capacity bytes) := by
  by_cases nothing : bytes = []
  · simp [write, overflow?, room, nothing, filledWith_nil room]
  · have whole : channel.stored.toList.take capacity = channel.stored.toList :=
      List.take_of_length_le room
    have fits_iff : bytes.length ≤ capacity - channel.stored.size ↔
        channel.stored.size + bytes.length ≤ capacity := by omega
    have stored_eq : channel.stored ++ bytes.take (capacity - channel.stored.size) =
        ((channel.stored.toList ++ bytes).take capacity).toArray := by
      rw [List.take_append, whole]
      exact Array.ext' (by simp)
    simp [write, bounded.capacity_eq, bounded.unfailing, nothing, fits_iff, overflow?, filledWith,
      stored_eq]

/-- Pieces that are written one after the other fill a channel as all of them together do. -/
theorem writeAll_bounded (bounded : channel.IsBounded capacity)
    (room : channel.stored.size ≤ capacity) (pieces : List (List UInt8)) :
    Sink.writeAll channel pieces =
      (overflow? capacity (channel.stored.size + pieces.flatten.length),
        channel.filledWith capacity pieces.flatten) := by
  induction pieces generalizing channel with
  | nil => simp [Sink.writeAll, overflow?, room, filledWith_nil room]
  | cons piece pieces ih =>
      have written : Sink.write channel piece =
          (overflow? capacity (channel.stored.size + piece.length),
            channel.filledWith capacity piece) := write_bounded bounded room piece
      rw [Sink.writeAll, written, List.flatten_cons, List.length_append]
      by_cases fits : channel.stored.size + piece.length ≤ capacity
      · have size_eq : (channel.filledWith capacity piece).stored.size =
            channel.stored.size + piece.length := by
          simp [filledWith, fits]
        have later := ih (bounded.filledWith piece) (size_eq ▸ fits)
        rw [size_eq, ← filledWith_append fits, Nat.add_assoc] at later
        rw [overflow?, if_pos fits]
        exact later
      · have exceeds :
            ¬ channel.stored.size + (piece.length + pieces.flatten.length) ≤ capacity := by omega
        rw [filledWith_full (by omega), overflow?, if_neg fits, overflow?, if_neg exceeds]

end Channel

theorem take_append_take {α : Type} (count : Nat) (left right : List α) :
    (left.take count ++ right).take count = (left ++ right).take count := by
  have room : count - min count left.length = count - left.length := by omega
  simp [List.take_append, List.take_take, room]

theorem Diagnostic.lineBytes_ne_nil (diagnostic : Diagnostic) : diagnostic.lineBytes ≠ [] := by
  rw [lineBytes, String.toList_append, encode_append]
  exact List.append_ne_nil_of_right_ne_nil _ (List.cons_ne_nil _ _)

/-- The bytes of the lines of diagnostics. -/
def linesOf (diagnostics : List Diagnostic) : List UInt8 :=
  diagnostics.flatMap Diagnostic.lineBytes

namespace Collector

/-! ## Reports -/

/-- The bytes of the lines of all reports, whatever became of them. -/
def reportedLines (echoes : List Echo) : List UInt8 := linesOf (echoes.map Echo.diagnostic)

theorem reportedLines_append (front back : List Echo) :
    reportedLines (front ++ back) = reportedLines front ++ reportedLines back := by
  rw [reportedLines, List.map_append, linesOf, List.flatMap_append]
  rfl

theorem reportedLines_singleton (echo : Echo) :
    reportedLines [echo] = echo.diagnostic.lineBytes :=
  List.flatMap_singleton Diagnostic.lineBytes echo.diagnostic

/-- How the reports made so far have filled the channel of a collector, and which of them failed. -/
structure Fills (capacity : Nat) (echoes : List Echo) (collector : Collector Channel) : Prop where
  /-- The channel is bounded. -/
  bounded : collector.sink.IsBounded capacity
  /-- The channel holds as many bytes of the lines as fit. -/
  contents : collector.sink.stored.toList = (reportedLines echoes).take capacity
  /-- A report fails exactly if the lines up to its own do not fit. -/
  failures : ∀ front echo, front ++ [echo] <+: echoes →
    echo.failure = Channel.overflow? capacity (reportedLines (front ++ [echo])).length

namespace Fills

variable {capacity : Nat} {echoes : List Echo} {collector : Collector Channel}

theorem size_eq (fills : Fills capacity echoes collector) :
    collector.sink.stored.size = min capacity (reportedLines echoes).length := by
  rw [← Array.length_toList, fills.contents, List.length_take]

/-- A report fills the channel with its line. -/
theorem report (fills : Fills capacity echoes collector) (diagnostic : Diagnostic) :
    Fills capacity (echoes ++ [collector.echo diagnostic]) (collector.report diagnostic).1 := by
  have size := fills.size_eq
  have line := List.length_pos_iff.mpr diagnostic.lineBytes_ne_nil
  have lines_eq : reportedLines (echoes ++ [collector.echo diagnostic]) =
      reportedLines echoes ++ diagnostic.lineBytes := by
    rw [reportedLines_append, reportedLines_singleton, echo]
  have written := Channel.writeAll_bounded fills.bounded (by omega) (linePieces diagnostic)
  rw [flatten_linePieces] at written
  have sink_eq : (collector.report diagnostic).1.sink =
      collector.sink.filledWith capacity diagnostic.lineBytes := congrArg Prod.snd written
  have failure_eq : (collector.echo diagnostic).failure =
      Channel.overflow? capacity (collector.sink.stored.size + diagnostic.lineBytes.length) := by
    rw [echo, written]
  constructor
  · rw [sink_eq]
    exact fills.bounded.filledWith _
  · rw [sink_eq, Channel.filledWith, fills.contents, lines_eq]
    exact take_append_take _ _ _
  · intro front echo stands
    rcases List.prefix_concat_iff.mp stands with last | earlier
    · obtain ⟨rfl, same⟩ := List.append_inj' last rfl
      obtain rfl := List.singleton_inj.mp same
      -- A full channel takes no byte of a further line, and every line has one.
      have fits_iff : collector.sink.stored.size + diagnostic.lineBytes.length ≤ capacity ↔
          (reportedLines front).length + diagnostic.lineBytes.length ≤ capacity := by omega
      rw [failure_eq, lines_eq, List.length_append]
      exact if_congr fits_iff rfl rfl
    · exact fills.failures front echo earlier

/-- A change of the sink that keeps its bytes and its bound changes nothing of that. -/
theorem adjust (fills : Fills capacity echoes collector) {channel : Channel}
    (bounded : channel.IsBounded capacity)
    (keeps : Sink.contents channel = Sink.contents collector.sink) :
    Fills capacity echoes { collector with sink := channel } where
  bounded := bounded
  contents := keeps.trans fills.contents
  failures := fills.failures

/-- What became of a report tells of some of the lines whether they fit. -/
theorem exists_failure_eq (fills : Fills capacity echoes collector) {echo : Echo}
    (member : echo ∈ echoes) :
    ∃ size, size ≤ (reportedLines echoes).length ∧
      echo.failure = Channel.overflow? capacity size := by
  obtain ⟨front, back, rfl⟩ := List.append_of_mem member
  have echoes_eq : front ++ echo :: back = (front ++ [echo]) ++ back := by simp
  refine ⟨_, ?_, fills.failures front echo ⟨back, echoes_eq.symm⟩⟩
  rw [echoes_eq, reportedLines_append _ back, List.length_append]
  exact Nat.le_add_right _ _

/-- Lines that fit make no report fail. -/
theorem findSome?_of_fits (fills : Fills capacity echoes collector)
    (fits : (reportedLines echoes).length ≤ capacity) :
    echoes.findSome? Echo.failure = none := by
  rw [List.findSome?_eq_none_iff]
  intro echo member
  obtain ⟨size, shorter, failure⟩ := fills.exists_failure_eq member
  rw [failure, Channel.overflow?, if_pos (Nat.le_trans shorter fits)]

/-- Lines that do not fit make a report fail, and for want of room. -/
theorem findSome?_of_exceeds (fills : Fills capacity echoes collector)
    (exceeds : capacity < (reportedLines echoes).length) :
    echoes.findSome? Echo.failure = some .writeZero := by
  rcases List.eq_nil_or_concat echoes with rfl | ⟨front, last, rfl⟩
  · exact (Nat.not_lt_zero capacity exceeds).elim
  rw [List.concat_eq_append] at fills exceeds ⊢
  have last_failure := fills.failures front last List.prefix_rfl
  rw [Channel.overflow?, if_neg (Nat.not_le_of_lt exceeds)] at last_failure
  cases held : (front ++ [last]).findSome? Echo.failure with
  | none =>
      have absent := List.findSome?_eq_none_iff.mp held last (by simp)
      rw [last_failure] at absent
      contradiction
  | some error =>
      obtain ⟨echo, member, failed⟩ := List.exists_of_findSome?_eq_some held
      obtain ⟨size, -, failure⟩ := fills.exists_failure_eq member
      rw [failed, Channel.overflow?] at failure
      split at failure
      · contradiction
      · exact failure

/-- Lines that do not fit end a collection with that failure, without a flush. -/
theorem settle_of_exceeds (fills : Fills capacity echoes collector)
    (held : collector.writeError = echoes.findSome? Echo.failure)
    (exceeds : capacity < (reportedLines echoes).length) :
    collector.settle = (some .writeZero, collector.sink) :=
  settle_of_failed (held.trans (fills.findSome?_of_exceeds exceeds))

/-- Behind lines that fit, the flush decides. -/
theorem settle_of_fits (fills : Fills capacity echoes collector)
    (held : collector.writeError = echoes.findSome? Echo.failure)
    (fits : (reportedLines echoes).length ≤ capacity) :
    collector.settle = (collector.sink.settings.flushError, collector.sink) :=
  settle_of_unfailing (held.trans (fills.findSome?_of_fits fits))

/-- Unless a flush can fail in the same way, want of room tells that the lines do not fit. -/
theorem finish_eq_writeZero_iff (fills : Fills capacity echoes collector)
    (held : collector.writeError = echoes.findSome? Echo.failure)
    (other : collector.sink.settings.flushError ≠ some .writeZero) :
    collector.finish = .error .writeZero ↔ capacity < (reportedLines echoes).length := by
  constructor
  · intro failed
    refine Nat.lt_of_not_le fun fits => ?_
    rw [finish, fills.settle_of_fits held fits] at failed
    cases flush : collector.sink.settings.flushError with
    | none =>
        rw [flush] at failed
        contradiction
    | some error =>
        rw [flush] at failed
        exact other (flush.trans (congrArg some (Except.error.inj failed)))
  · intro exceeds
    rw [finish, fills.settle_of_exceeds held exceeds]

end Fills

/-! ## Runs -/

/-- A bounded channel stays bounded when it is changed by a use. -/
def Use.KeepsBound (capacity : Nat) : Use Channel → Prop
  | report _ | drain _ => True
  | adjust change _ =>
      ∀ channel : Channel, channel.IsBounded capacity → (change channel).IsBounded capacity

theorem Fills.run {capacity : Nat} {echoes : List Echo} {collector : Collector Channel}
    (fills : Fills capacity echoes collector) {uses : List (Use Channel)}
    (bounded : ∀ use ∈ uses, use.KeepsBound capacity) :
    Fills capacity (echoes ++ collector.echoes uses) (collector.run uses) :=
  run_induction (motive := Fills capacity) (fun diagnostic fills => fills.report diagnostic)
    (fun change keeps member fills =>
      fills.adjust (bounded (.adjust change keeps) member _ fills.bounded) (keeps _)) fills

/-- The bytes of the lines of all that some uses report. -/
def linesReportedBy (uses : List (Use Channel)) : List UInt8 :=
  linesOf (uses.flatMap Use.diagnostics)

theorem reportedLines_echoes (collector : Collector Channel) (uses : List (Use Channel)) :
    reportedLines (collector.echoes uses) = linesReportedBy uses := by
  rw [reportedLines, diagnostics_echoes, linesReportedBy]

/--
What a channel that holds a fixed number of bytes at most shows of the reports made over it, and how
they end.
-/
structure HoldsWhatFits (capacity : Nat) (start : Channel) (uses : List (Use Channel)) : Prop where
  /-- After every use the channel holds as many bytes of all lines as fit. -/
  contents : ∀ front, front <+: uses →
    Sink.contents ((ofSink start).run front).sink = (linesReportedBy front).take capacity
  /-- Something became of every diagnostic reported, in order. -/
  echoes : ((ofSink start).echoes uses).map Echo.diagnostic = uses.flatMap Use.diagnostics
  /-- A report fails exactly if the lines up to its own do not fit, and for want of room. -/
  failures : ∀ front echo, front ++ [echo] <+: (ofSink start).echoes uses →
    echo.failure =
      if (linesOf ((front ++ [echo]).map Echo.diagnostic)).length ≤ capacity then none
      else some .writeZero
  /-- If the lines do not fit, this is how the run ends, without a flush. -/
  exceeded : capacity < (linesReportedBy uses).length →
    ((ofSink start).run uses).settle = (some .writeZero, ((ofSink start).run uses).sink) ∧
      ((ofSink start).run uses).finish = .error .writeZero
  /-- If they fit, the run ends with the failure of the flush, if it fails. -/
  flush_failed : (linesReportedBy uses).length ≤ capacity →
    ∀ error, ((ofSink start).run uses).sink.settings.flushError = some error →
      ((ofSink start).run uses).finish = .error error
  /-- If they fit and the flush succeeds, the channel is handed back with all lines. -/
  finished : (linesReportedBy uses).length ≤ capacity →
    ((ofSink start).run uses).sink.settings.flushError = none →
      ((ofSink start).run uses).finish = .ok ((ofSink start).run uses).sink ∧
        Sink.contents ((ofSink start).run uses).sink = linesReportedBy uses
  /-- Unless a flush can fail in the same way, want of room tells that the lines do not fit. -/
  finish_iff : ((ofSink start).run uses).sink.settings.flushError ≠ some .writeZero →
    (((ofSink start).run uses).finish = .error .writeZero ↔
      capacity < (linesReportedBy uses).length)

/-- A channel of fixed capacity is filled with all that is reported, and tells whether it fits. -/
theorem holdsWhatFits_run (capacity : Nat) (flushError : Option IoError)
    {uses : List (Use Channel)} (bounded : ∀ use ∈ uses, use.KeepsBound capacity) :
    HoldsWhatFits capacity (Channel.empty { capacity := some capacity, flushError }) uses := by
  generalize start_eq : Channel.empty { capacity := some capacity, flushError } = start
  have empty : Fills capacity [] (ofSink start) := by
    subst start_eq
    exact ⟨⟨rfl, rfl⟩, by simp [ofSink, Channel.empty, reportedLines, linesOf], by simp⟩
  have fills {front : List (Use Channel)} (stands : front <+: uses) :
      Fills capacity ((ofSink start).echoes front) ((ofSink start).run front) :=
    empty.run fun use member => bounded use (stands.subset member)
  have contents {front : List (Use Channel)} (stands : front <+: uses) :
      Sink.contents ((ofSink start).run front).sink = (linesReportedBy front).take capacity := by
    rw [← reportedLines_echoes]
    exact (fills stands).contents
  have filled : Fills capacity ((ofSink start).echoes uses) ((ofSink start).run uses) :=
    fills List.prefix_rfl
  have held := ((Follows.ofSink start).run uses).writeError
  rw [List.nil_append] at held
  have lines_eq := reportedLines_echoes (ofSink start) uses
  constructor
  · exact fun front => contents
  · exact diagnostics_echoes _ uses
  · exact filled.failures
  · rw [← lines_eq]
    intro exceeds
    have settled := filled.settle_of_exceeds held exceeds
    exact ⟨settled, finish_eq_error (congrArg Prod.fst settled)⟩
  · rw [← lines_eq]
    intro fits error failed
    exact finish_eq_error ((congrArg Prod.fst (filled.settle_of_fits held fits)).trans failed)
  · intro fits succeeds
    have settled := filled.settle_of_fits held (lines_eq ▸ fits)
    refine ⟨?_, (contents List.prefix_rfl).trans (List.take_of_length_le fits)⟩
    rw [finish, settled, succeeds]
  · rw [← lines_eq]
    exact filled.finish_eq_writeZero_iff held

/-- Reports of which the first is cut off within the bytes of a character. -/
def cutCharacter : List (Use Channel) :=
  [.report { line := 1, error := .unexpectedCharacter 'é' },
    Use.withSettings
      { capacity := some 39, flushError := some { kind := "Other", message := "lost" } },
    .drain (Scanner.ofSource "(#\n\"open".toList {})]

theorem holdsWhatFits_run_cutCharacter :
    (∀ use ∈ cutCharacter, use.KeepsBound 39) ∧
      HoldsWhatFits 39 (Channel.empty { capacity := some 39, flushError := none })
        cutCharacter := by
  have bounded : ∀ use ∈ cutCharacter, use.KeepsBound 39 := by
    simp only [cutCharacter, List.forall_mem_cons]
    exact ⟨trivial, fun _ _ => ⟨rfl, rfl⟩, trivial, List.forall_mem_nil _⟩
  exact ⟨bounded, holdsWhatFits_run 39 none bounded⟩

end Collector
end LoxTokens
