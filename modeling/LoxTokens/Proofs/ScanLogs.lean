import LoxTokens.Proofs.Pulling
import LoxTokens.Proofs.ScanEvents

/-!
# Logs of a scan

The log of a scan tells what became of its items, one after the other, and closes with a count of
the tokens returned and of all diagnostics collected.
-/

namespace LoxTokens

/--
What the records of one item tell, its diagnostic being written to a sink if it is one.  A token has
a trace, but the end of the source has none.  A diagnostic has a record, and one more behind it if
it could not be written.
-/
inductive Item.Tells {σ : Type} [Sink σ] (sink : σ) : Item → List Record → σ → Prop where
  | token {token : Token} :
      token.kind ≠ .eof →
        Tells sink (.token token)
          [{ level := .trace
             target := .scanner
             message :=
               "line " ++ token.line.toNat.repr ++ " " ++ token.start.repr ++ ".." ++
                 token.stop.repr ++ ": " ++ token.text }]
          sink
  | ending {token : Token} : token.kind = .eof → Tells sink (.token token) [] sink
  | written {diagnostic : Diagnostic} {after : σ} :
      Sink.writeAll sink (Collector.linePieces diagnostic) = (none, after) →
        Tells sink (.diagnostic diagnostic)
          [{ level := .debug
             target := .collector
             message :=
               "lexical error on line " ++ diagnostic.line.toNat.repr ++ ": " ++
                 diagnostic.error.message }]
          after
  | unwritten {diagnostic : Diagnostic} {error : IoError} {after : σ} :
      Sink.writeAll sink (Collector.linePieces diagnostic) = (some error, after) →
        Tells sink (.diagnostic diagnostic)
          [{ level := .debug
             target := .collector
             message :=
               "lexical error on line " ++ diagnostic.line.toNat.repr ++ ": " ++
                 diagnostic.error.message },
            { level := .warn
              target := .collector
              message := "failed to write diagnostic: " ++ error.message }]
          after

/-- What records tell of items that are taken into account one after the other. -/
inductive Tells {σ : Type} [Sink σ] : σ → List Item → List Record → σ → Prop where
  | nil {sink : σ} : Tells sink [] [] sink
  | cons {sink middle last : σ} {item : Item} {items : List Item} {own records : List Record} :
      item.Tells sink own middle → Tells middle items records last →
        Tells sink (item :: items) (own ++ records) last

/-- Whether a record is the count that closes a scan. -/
def Record.IsCount (record : Record) : Prop := record.level = .debug ∧ record.target = .scanner

/-- The number of traces among some records. -/
def traceCount (records : List Record) : Nat :=
  records.countP fun record => record.level == .trace

section log

variable {σ : Type} [Sink σ] {sink last : σ} {item : Item} {items : List Item}
  {records : List Record}

namespace Item.Tells

theorem not_isCount (tells : item.Tells sink records last) :
    ∀ record ∈ records, ¬ record.IsCount := by
  cases tells <;> simp [Record.IsCount]

/-- Every token but the end of the source has one trace. -/
theorem traceCount_eq (tells : item.Tells sink records last) :
    traceCount records = item.token?.toList.countP (·.kind ≠ .eof) := by
  cases tells with
  | token visible => simp [traceCount, token?, visible]
  | ending ends => simp [traceCount, token?, ends]
  | written | unwritten => rfl

end Item.Tells

namespace Tells

theorem not_isCount (tells : Tells sink items records last) :
    ∀ record ∈ records, ¬ record.IsCount := by
  induction tells with
  | nil => simp
  | cons first _ ih => exact List.forall_mem_append.mpr ⟨first.not_isCount, ih⟩

theorem traceCount_eq (tells : Tells sink items records last) :
    traceCount records = (items.filterMap Item.token?).countP (·.kind ≠ .eof) := by
  induction tells with
  | nil => rfl
  | cons first _ ih =>
      rw [tokens_cons, List.countP_append, ← first.traceCount_eq, ← ih]
      exact List.countP_append

end Tells

namespace Collector

/-- The records of an item tell what became of it. -/
theorem tells_itemEvents (collector : Collector σ) (item : Item) :
    item.Tells collector.sink ((collector.itemEvents item).filterMap Event.record?)
      (collector.afterItem item).sink := by
  cases item with
  | token token =>
      rw [itemEvents, Token.traceRecord?]
      split
      · exact .ending ‹_›
      · exact .token ‹_›
  | diagnostic diagnostic =>
      rw [itemEvents, afterItem, report]
      cases written : Sink.writeAll collector.sink (linePieces diagnostic) with
      | mk failure after =>
          cases failure with
          | none => exact .written written
          | some error => exact .unwritten written

theorem tells_events (collector : Collector σ) (items : List Item) :
    Tells collector.sink items ((collector.events items).filterMap Event.record?)
      (items.foldl afterItem collector).sink := by
  induction items generalizing collector with
  | nil => exact .nil
  | cons item items ih =>
      rw [events, List.filterMap_append]
      exact .cons (collector.tells_itemEvents item) (ih (collector.afterItem item))

end Collector

theorem Transcript.collector_foldl_add (transcript : Transcript σ) (items : List Item) :
    (items.foldl add transcript).collector =
      items.foldl Collector.afterItem transcript.collector := by
  induction items generalizing transcript with
  | nil => rfl
  | cons item items ih => rw [List.foldl_cons, ih, collector_add, List.foldl_cons]

namespace Scanner

/--
The log of a drain.  Its records tell what became of the items left, in source order, and then it
counts the tokens returned and all diagnostics that the collector holds, earlier ones included.
-/
structure KeepsLog (scanner : Scanner) (collector : Collector σ) (records : List Record) :
    Prop where
  /-- The records tell what became of the items. -/
  tells : Tells collector.sink scanner.items records (scanner.drain collector).collector.sink
  /-- The log has these records, and then the count. -/
  log : (scanner.drain collector).events.toList.filterMap Event.record? =
    records ++
      [{ level := .debug
         target := .scanner
         message :=
           "scanned " ++ (scanner.drain collector).tokens.size.repr ++ " tokens with " ++
             (scanner.drain collector).collector.reported.size.repr ++ " errors" }]
  /-- The tokens counted are those returned. -/
  tokens : (scanner.drain collector).tokens.toList = scanner.items.filterMap Item.token?
  /-- The diagnostics counted are the earlier ones and those of the scan. -/
  errors : (scanner.drain collector).collector.reported.toList =
    collector.reported.toList ++ scanner.items.filterMap Item.diagnostic?
  /-- There is only one count. -/
  once : ∀ record ∈ records, ¬ record.IsCount
  /-- One token more is counted than there are traces, since the end of the source has none. -/
  ends : scanner.finished = false →
    (scanner.drain collector).tokens.size = traceCount records + 1

/-- A scan that goes on returns one token besides those that are no end of the source. -/
theorem size_tokens_drain (scanner : Scanner) (collector : Collector σ)
    (unfinished : scanner.finished = false) :
    (scanner.drain collector).tokens.size =
      (scanner.items.filterMap Item.token?).countP (·.kind ≠ .eof) + 1 := by
  obtain ⟨earlier, -, goes_on, ended⟩ := exists_take_end scanner unfinished
  have items_eq := items_of_take (earlier.length + 1) (congrArg (·.2.finished) ended)
  rw [ended] at items_eq
  have all : ∀ token ∈ earlier.filterMap Item.token?, decide (token.kind ≠ .eof) := by
    intro token member
    exact decide_eq_true (of_decide_eq_false (goes_on _ (mem_tokens.mp member)))
  rw [← Array.length_toList, tokens_drain, items_eq, List.filterMap_append, List.length_append,
    List.countP_append, List.countP_eq_length.mpr all]
  rfl

/-- Every drain keeps its log, whatever the collector holds and whatever its sink does. -/
theorem exists_keepsLog (scanner : Scanner) (collector : Collector σ) :
    ∃ records, KeepsLog scanner collector records := by
  have tells := collector.tells_events scanner.items
  have collector_eq : (scanner.drain collector).collector =
      scanner.items.foldl Collector.afterItem collector :=
    Transcript.collector_foldl_add (.start collector) scanner.items
  rw [← collector_eq] at tells
  refine ⟨_, tells, ?_, tokens_drain scanner collector, reported_drain scanner collector,
    tells.not_isCount, ?_⟩
  · rw [events_drain, List.filterMap_append]
    rfl
  · intro unfinished
    rw [size_tokens_drain scanner collector unfinished, tells.traceCount_eq]

end Scanner
end log
end LoxTokens
