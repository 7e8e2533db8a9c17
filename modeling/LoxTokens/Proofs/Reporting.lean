import LoxTokens.Proofs.Tiling
import LoxTokens.Transcript
import Mathlib.Data.List.Basic

/-!
# Runs of a collector

Between its making and its end a collector goes through reports, drained scans and changes of its
sink.  What was reported is kept whatever the sink does.  The sink holds the beginning of the line
of each report, the whole line if no write failed, and the first failure of all decides how the run
ends.
-/

namespace LoxTokens

/-- The line of a diagnostic as bytes, with its newline. -/
def Diagnostic.lineBytes (diagnostic : Diagnostic) : List UInt8 :=
  Utf8.encode (diagnostic.text ++ "\n").toList

theorem encode_append (left right : List Char) :
    Utf8.encode (left ++ right) = Utf8.encode left ++ Utf8.encode right :=
  List.flatMap_append

theorem encode_join (pieces : List String) :
    Utf8.encode (String.join pieces).toList =
      (pieces.map fun piece => Utf8.encode piece.toList).flatten := by
  induction pieces with
  | nil => rfl
  | cons piece pieces ih =>
      rw [String.join_cons, String.toList_append, encode_append, ih]
      rfl

/-- Writing pieces stores the beginning of what they make up, all of it if no write fails. -/
theorem Sink.writeAll_contents {σ : Type} [Sink σ] [LawfulSink σ] (sink : σ)
    (pieces : List (List UInt8)) :
    ∃ stored lost, pieces.flatten = stored ++ lost ∧
      contents (writeAll sink pieces).2 = contents sink ++ stored ∧
      ((writeAll sink pieces).1 = none ↔ lost = []) := by
  induction pieces generalizing sink with
  | nil => exact ⟨[], [], rfl, (List.append_nil _).symm, by simp [writeAll]⟩
  | cons piece pieces ih =>
      obtain ⟨stored, lost, piece_eq, contents_eq, whole⟩ :=
        LawfulSink.write_contents sink piece
      cases written : write sink piece with
      | mk failure after =>
          rw [written] at contents_eq whole
          cases failure with
          | none =>
              obtain rfl := whole.mp rfl
              obtain ⟨later, lost, pieces_eq, later_eq, whole_later⟩ := ih after
              refine ⟨stored ++ later, lost, ?_, ?_, ?_⟩
              · rw [List.flatten_cons, piece_eq, pieces_eq, List.append_nil, List.append_assoc]
              · rw [writeAll, written, later_eq, contents_eq, List.append_assoc]
              · rwa [writeAll, written]
          | some error =>
              have not_whole : lost ≠ [] := by simpa using mt whole.mpr
              refine ⟨stored, lost ++ pieces.flatten, ?_, ?_, ?_⟩
              · rw [List.flatten_cons, piece_eq, List.append_assoc]
              · rwa [writeAll, written]
              · simp [writeAll, written, not_whole]

namespace Collector

section use

variable {σ : Type} [Sink σ]

/-- Something that a collector goes through between its making and its end. -/
inductive Use (σ : Type) [Sink σ] where
  /-- A diagnostic is reported. -/
  | report (diagnostic : Diagnostic)
  /-- What is left of a scan is drained into the collector. -/
  | drain (scanner : Scanner)
  /-- The sink is changed in what it does from now on, but not in the bytes that it holds. -/
  | adjust (change : σ → σ) (keeps : ∀ sink, Sink.contents (change sink) = Sink.contents sink)

/-- The diagnostics that a use reports, whatever the sink does. -/
def Use.diagnostics : Use σ → List Diagnostic
  | report diagnostic => [diagnostic]
  | drain scanner => scanner.items.filterMap Item.diagnostic?
  | adjust _ _ => []

/-- A collector after a use. -/
def after (collector : Collector σ) : Use σ → Collector σ
  | .report diagnostic => (collector.report diagnostic).1
  | .drain scanner => (scanner.drain collector).collector
  | .adjust change _ => { collector with sink := change collector.sink }

/-- A collector after some uses. -/
def run (collector : Collector σ) (uses : List (Use σ)) : Collector σ := uses.foldl after collector

/-- What became of one report. -/
structure Echo where
  /-- The diagnostic reported. -/
  diagnostic : Diagnostic
  /-- The bytes that the sink holds since. -/
  stored : List UInt8
  /-- The error of the first write that failed, if one did. -/
  failure : Option IoError

/-- What becomes of a diagnostic that is reported next. -/
def echo (collector : Collector σ) (diagnostic : Diagnostic) : Echo :=
  { diagnostic
    stored := (Sink.contents (collector.report diagnostic).1.sink).drop
      (Sink.contents collector.sink).length
    failure := (Sink.writeAll collector.sink (linePieces diagnostic)).1 }

/-- What becomes of diagnostics that are reported one after the other. -/
def echoAll (collector : Collector σ) : List Diagnostic → List Echo
  | [] => []
  | diagnostic :: later =>
      collector.echo diagnostic :: (collector.report diagnostic).1.echoAll later

/-- What becomes of all reports in a run. -/
def echoes (collector : Collector σ) : List (Use σ) → List Echo
  | [] => []
  | use :: uses => collector.echoAll use.diagnostics ++ (collector.after use).echoes uses

/-- A collector after diagnostics are reported one after the other. -/
def reportAll (collector : Collector σ) (diagnostics : List Diagnostic) : Collector σ :=
  diagnostics.foldl (fun collector diagnostic => (collector.report diagnostic).1) collector

/-- A drain reports the diagnostics that are left. -/
theorem collector_drain (scanner : Scanner) (collector : Collector σ) :
    (scanner.drain collector).collector =
      collector.reportAll (scanner.items.filterMap Item.diagnostic?) := by
  suffices adds : ∀ (items : List Item) (transcript : Transcript σ),
      (items.foldl Transcript.add transcript).collector =
        transcript.collector.reportAll (items.filterMap Item.diagnostic?) from
    adds scanner.items (Transcript.start collector)
  intro items
  induction items with
  | nil => exact fun _ => rfl
  | cons item items ih =>
      intro transcript
      rw [List.foldl_cons, ih]
      cases item <;> rfl

end use

/-! ## Single reports -/

section law

variable {σ : Type} [Sink σ]

theorem flatten_linePieces (diagnostic : Diagnostic) :
    (linePieces diagnostic).flatten = diagnostic.lineBytes := by
  rw [linePieces, ← encode_join, Diagnostic.lineBytes, Diagnostic.text]
  simp [String.join_append]

/-- A report stores the beginning of the line, all of it exactly when no write fails. -/
theorem echo_stored [LawfulSink σ] (collector : Collector σ) (diagnostic : Diagnostic) :
    Sink.contents (collector.report diagnostic).1.sink =
        Sink.contents collector.sink ++ (collector.echo diagnostic).stored ∧
      (collector.echo diagnostic).stored <+: diagnostic.lineBytes ∧
      ((collector.echo diagnostic).stored = diagnostic.lineBytes ↔
        (collector.echo diagnostic).failure = none) := by
  obtain ⟨stored, lost, line_eq, contents_eq, whole⟩ :=
    Sink.writeAll_contents collector.sink (linePieces diagnostic)
  rw [flatten_linePieces] at line_eq
  have reported : (collector.report diagnostic).1.sink =
      (Sink.writeAll collector.sink (linePieces diagnostic)).2 := rfl
  have stored_eq : (collector.echo diagnostic).stored = stored := by
    rw [echo, reported, contents_eq, List.drop_left]
  refine ⟨?_, ⟨lost, ?_⟩, ?_⟩
  · rw [stored_eq, reported, contents_eq]
  · rw [stored_eq, line_eq]
  · rw [stored_eq, line_eq, List.self_eq_append_right]
    exact whole.symm

/-! ## Runs -/

section induction

variable {motive : List Echo → Collector σ → Prop} {echoes : List Echo} {collector : Collector σ}

/-- What every report keeps, together with what became of it, reports in a row keep. -/
theorem reportAll_induction
    (report : ∀ {echoes : List Echo} {collector : Collector σ} (diagnostic : Diagnostic),
      motive echoes collector →
        motive (echoes ++ [collector.echo diagnostic]) (collector.report diagnostic).1)
    (start : motive echoes collector) (diagnostics : List Diagnostic) :
    motive (echoes ++ collector.echoAll diagnostics) (collector.reportAll diagnostics) := by
  induction diagnostics generalizing echoes collector with
  | nil => simpa [echoAll, Collector.reportAll] using start
  | cons diagnostic later ih =>
      have reported := ih (report diagnostic start)
      rw [List.append_assoc] at reported
      exact reported

/-- What every report and every change of the sink keeps, a run keeps. -/
theorem run_induction {uses : List (Use σ)}
    (report : ∀ {echoes : List Echo} {collector : Collector σ} (diagnostic : Diagnostic),
      motive echoes collector →
        motive (echoes ++ [collector.echo diagnostic]) (collector.report diagnostic).1)
    (adjust : ∀ {echoes : List Echo} {collector : Collector σ} (change : σ → σ)
      (keeps : ∀ sink, Sink.contents (change sink) = Sink.contents sink),
      .adjust change keeps ∈ uses → motive echoes collector →
        motive echoes { collector with sink := change collector.sink })
    (start : motive echoes collector) :
    motive (echoes ++ collector.echoes uses) (collector.run uses) := by
  induction uses generalizing echoes collector with
  | nil => simpa [Collector.echoes, Collector.run] using start
  | cons use uses ih =>
      have used : motive (echoes ++ collector.echoAll use.diagnostics) (collector.after use) := by
        cases use with
        | report diagnostic => exact report diagnostic start
        | drain scanner =>
            rw [after, collector_drain]
            exact reportAll_induction report start _
        | adjust change keeps =>
            have adjusted := adjust change keeps List.mem_cons_self start
            simpa [Use.diagnostics, echoAll, after] using adjusted
      have later := ih (fun change keeps member =>
        adjust change keeps (List.mem_cons_of_mem use member)) used
      rw [List.append_assoc] at later
      exact later

end induction

/-- The state of a collector follows from what became of the reports made so far. -/
structure Follows (start : σ) (echoes : List Echo) (collector : Collector σ) : Prop where
  /-- Every report is kept. -/
  reported : collector.reported.toList = echoes.map Echo.diagnostic
  /-- The flag is set by the first report. -/
  hadError : collector.hadError = true ↔ echoes ≠ []
  /-- Each report stored the beginning of its line, all of it exactly when no write failed. -/
  stored : ∀ echo ∈ echoes, echo.stored <+: echo.diagnostic.lineBytes ∧
    (echo.stored = echo.diagnostic.lineBytes ↔ echo.failure = none)
  /-- The sink holds what the reports stored, and nothing else. -/
  contents : Sink.contents collector.sink = Sink.contents start ++ echoes.flatMap Echo.stored
  /-- The first failure is held. -/
  writeError : collector.writeError = echoes.findSome? Echo.failure

namespace Follows

variable {start : σ} {echoes : List Echo} {collector : Collector σ}

theorem ofSink (start : σ) : Follows start [] (Collector.ofSink start) where
  reported := rfl
  hadError := by simp [Collector.ofSink]
  stored := by simp
  contents := (List.append_nil _).symm
  writeError := rfl

/-- A report adds to the account what became of it. -/
theorem report [LawfulSink σ] (follows : Follows start echoes collector)
    (diagnostic : Diagnostic) :
    Follows start (echoes ++ [collector.echo diagnostic]) (collector.report diagnostic).1 := by
  obtain ⟨contents_eq, stored⟩ := collector.echo_stored diagnostic
  constructor
  · rw [List.map_append, ← follows.reported]
    exact Array.toList_push
  · simp [Collector.report]
  · rw [List.forall_mem_append, List.forall_mem_singleton]
    exact ⟨follows.stored, stored⟩
  · rw [contents_eq, follows.contents, List.flatMap_append, List.append_assoc,
      List.flatMap_singleton]
  · rw [List.findSome?_append, ← follows.writeError]
    simp [Collector.report, echo]

/-- A change of the sink that keeps its bytes changes nothing of the account. -/
theorem adjust (follows : Follows start echoes collector) {sink : σ}
    (keeps : Sink.contents sink = Sink.contents collector.sink) :
    Follows start echoes { collector with sink } :=
  { follows with contents := keeps.trans follows.contents }

theorem reportAll [LawfulSink σ] (follows : Follows start echoes collector)
    (diagnostics : List Diagnostic) :
    Follows start (echoes ++ collector.echoAll diagnostics) (collector.reportAll diagnostics) :=
  reportAll_induction (motive := Follows start)
    (fun diagnostic follows => follows.report diagnostic)
    follows diagnostics

/-- Whatever a collector goes through, its state follows from what became of the reports. -/
theorem run [LawfulSink σ] (follows : Follows start echoes collector) (uses : List (Use σ)) :
    Follows start (echoes ++ collector.echoes uses) (collector.run uses) :=
  run_induction (motive := Follows start) (fun diagnostic follows => follows.report diagnostic)
    (fun _ keeps _ follows => follows.adjust (keeps _)) follows

end Follows

theorem diagnostics_echoAll (collector : Collector σ) (diagnostics : List Diagnostic) :
    (collector.echoAll diagnostics).map Echo.diagnostic = diagnostics := by
  induction diagnostics generalizing collector with
  | nil => rfl
  | cons diagnostic later ih => rw [echoAll, List.map_cons, ih, echo]

theorem diagnostics_echoes (collector : Collector σ) (uses : List (Use σ)) :
    (collector.echoes uses).map Echo.diagnostic = uses.flatMap Use.diagnostics := by
  induction uses generalizing collector with
  | nil => rfl
  | cons use uses ih =>
      rw [echoes, List.map_append, diagnostics_echoAll, ih, List.flatMap_cons]

/-- Reports without a failure store their whole lines. -/
theorem stored_of_no_failure {echoes : List Echo}
    (stored : ∀ echo ∈ echoes, echo.stored = echo.diagnostic.lineBytes ↔ echo.failure = none)
    (unfailing : echoes.findSome? Echo.failure = none) :
    echoes.flatMap Echo.stored = (echoes.map Echo.diagnostic).flatMap Diagnostic.lineBytes := by
  rw [List.flatMap_map]
  apply List.flatMap_congr
  intro echo member
  exact (stored echo member).mpr (List.findSome?_eq_none_iff.mp unfailing echo member)

/-! ## Ends of runs -/

section settle

variable {collector : Collector σ} {error : IoError}

/-- A failure that is held ends a run, and then nothing is flushed. -/
theorem settle_of_failed (failed : collector.writeError = some error) :
    collector.settle = (some error, collector.sink) := by
  rw [settle, failed]

theorem settle_of_unfailing (unfailing : collector.writeError = none) :
    collector.settle = Sink.flush collector.sink := by
  rw [settle, unfailing]

theorem finish_eq_error (failed : collector.settle.1 = some error) :
    collector.finish = .error error := by
  obtain ⟨sink, settled⟩ : ∃ sink, collector.settle = (some error, sink) :=
    ⟨collector.settle.2, Prod.ext failed rfl⟩
  rw [finish, settled]

theorem finish_eq_ok (settles : collector.settle.1 = none) :
    collector.finish = .ok collector.settle.2 := by
  obtain ⟨sink, settled⟩ : ∃ sink, collector.settle = (none, sink) :=
    ⟨collector.settle.2, Prod.ext settles rfl⟩
  rw [finish, settled]

end settle

/-! ## The account of a run -/

/--
What a collector, over a sink that may change in what it does at any time, shows after some uses and
how it ends then.
-/
structure KeepsAccount (start : σ) (uses : List (Use σ)) : Prop where
  /-- Everything reported is kept in order, whatever the sink did. -/
  reported : ((ofSink start).run uses).reported.toList = uses.flatMap Use.diagnostics
  /-- The flag tells whether anything was reported. -/
  hadError : ((ofSink start).run uses).hadError = true ↔ uses.flatMap Use.diagnostics ≠ []
  /-- The flag is never cleared. -/
  flag_stays : ((ofSink start).run uses).hadError → ∀ more,
    ((ofSink start).run (uses ++ more)).hadError
  /-- Something became of every diagnostic reported, in order. -/
  echoes : ((ofSink start).echoes uses).map Echo.diagnostic = uses.flatMap Use.diagnostics
  /-- Each report stored the beginning of its line, all of it exactly when no write failed. -/
  stored : ∀ echo ∈ (ofSink start).echoes uses, echo.stored <+: echo.diagnostic.lineBytes ∧
    (echo.stored = echo.diagnostic.lineBytes ↔ echo.failure = none)
  /-- The sink holds what the reports stored, and nothing else. -/
  contents : Sink.contents ((ofSink start).run uses).sink =
    Sink.contents start ++ ((ofSink start).echoes uses).flatMap Echo.stored
  /-- The run ends with the first failure of a report, if there is one, and without a flush. -/
  failed : ∀ error, ((ofSink start).echoes uses).findSome? Echo.failure = some error →
    ((ofSink start).run uses).settle = (some error, ((ofSink start).run uses).sink) ∧
      ((ofSink start).run uses).finish = .error error
  /-- If no report failed, the run ends with the failure of the flush, if it fails. -/
  flush_failed : ((ofSink start).echoes uses).findSome? Echo.failure = none →
    ∀ error, (Sink.flush ((ofSink start).run uses).sink).1 = some error →
      ((ofSink start).run uses).finish = .error error
  /-- If nothing failed, the sink is handed back and holds all lines. -/
  finished : ((ofSink start).echoes uses).findSome? Echo.failure = none →
    (Sink.flush ((ofSink start).run uses).sink).1 = none →
      ∃ sink, ((ofSink start).run uses).finish = .ok sink ∧
        Sink.contents sink =
          Sink.contents start ++ (uses.flatMap Use.diagnostics).flatMap Diagnostic.lineBytes

/-- Every run of a collector keeps its account, from whatever sink it starts. -/
theorem keepsAccount_run [LawfulSink σ] (start : σ) (uses : List (Use σ)) :
    KeepsAccount start uses := by
  have follows : ∀ uses, Follows start ((ofSink start).echoes uses) ((ofSink start).run uses) :=
    (Follows.ofSink start).run
  have diagnostics := diagnostics_echoes (ofSink start)
  have flag : ∀ uses, ((ofSink start).run uses).hadError = true ↔
      uses.flatMap Use.diagnostics ≠ [] := by
    intro uses
    rw [(follows uses).hadError, ← diagnostics, Ne, Ne, List.map_eq_nil_iff]
  have held := (follows uses).writeError
  constructor
  · rw [(follows uses).reported, diagnostics]
  · exact flag uses
  · intro set more
    rw [flag] at set ⊢
    rw [List.flatMap_append]
    exact List.append_ne_nil_of_left_ne_nil set _
  · exact diagnostics uses
  · exact (follows uses).stored
  · exact (follows uses).contents
  · intro error failed
    have settled := settle_of_failed (held.trans failed)
    exact ⟨settled, finish_eq_error (congrArg Prod.fst settled)⟩
  · intro unfailing error failed
    have settled := settle_of_unfailing (held.trans unfailing)
    exact finish_eq_error ((congrArg Prod.fst settled).trans failed)
  · intro unfailing flushes
    have settled := settle_of_unfailing (held.trans unfailing)
    refine ⟨_, finish_eq_ok ((congrArg Prod.fst settled).trans flushes), ?_⟩
    have whole := stored_of_no_failure (fun echo member => ((follows uses).stored echo member).2)
      unfailing
    rw [settled, LawfulSink.flush_contents, (follows uses).contents, whole, diagnostics]

end law

/-- Give a channel other settings; it keeps its bytes. -/
def Use.withSettings (settings : ChannelSettings) : Use Channel :=
  .adjust (fun channel => { channel with settings }) fun _ => rfl

theorem keepsAccount_run_reopened :
    KeepsAccount (Channel.empty { capacity := some 50 })
      [.report { line := 1, error := .unexpectedCharacter '@' },
        .report { line := 2, error := .invalidNumber "99" },
        Use.withSettings { writeError := some { kind := "BrokenPipe", message := "closed" } },
        .drain (Scanner.ofSource "(#\n\"open".toList {}),
        Use.withSettings {},
        .report { line := 4, error := .unterminatedString }] :=
  keepsAccount_run _ _

end Collector
end LoxTokens
