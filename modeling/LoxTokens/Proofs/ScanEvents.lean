import LoxTokens.Proofs.Reporting

/-!
# Events of a scan

A scan shows the events of its items in their order, and then a summary.  Whatever becomes of the
reports, its lines are the texts of its diagnostics, and none of its records is an error.
-/

namespace LoxTokens

/-- An event that adds nothing but lines to an error stream on which only errors are logged. -/
def Event.IsQuiet : Event → Prop
  | record value => value.level ≠ .error
  | line _ => True
  | warning _ => False

section events

variable {σ : Type} [Sink σ]

namespace Collector

/-- The events of an item that is taken into account. -/
def itemEvents (collector : Collector σ) : Item → List Event
  | .token token => (token.traceRecord?.map Event.record).toList
  | .diagnostic diagnostic => (collector.report diagnostic).2

/-- A collector after an item is taken into account. -/
def afterItem (collector : Collector σ) : Item → Collector σ
  | .token _ => collector
  | .diagnostic diagnostic => (collector.report diagnostic).1

/-- The events of items that are taken into account one after the other. -/
def events (collector : Collector σ) : List Item → List Event
  | [] => []
  | item :: items => collector.itemEvents item ++ (collector.afterItem item).events items

/-- The lines of an item are the text of its diagnostic, even if no sink takes it. -/
theorem lines_itemEvents (collector : Collector σ) (item : Item) :
    (collector.itemEvents item).filterMap Event.line? =
      item.diagnostic?.toList.map Diagnostic.text := by
  cases item with
  | token token =>
      rw [itemEvents]
      cases token.traceRecord? <;> rfl
  | diagnostic diagnostic =>
      cases written : Sink.writeAll collector.sink (linePieces diagnostic) with
      | mk failure sink =>
          rw [itemEvents, report, written]
          cases failure <;> rfl

theorem lines_events (collector : Collector σ) (items : List Item) :
    (collector.events items).filterMap Event.line? =
      (items.filterMap Item.diagnostic?).map Diagnostic.text := by
  induction items generalizing collector with
  | nil => rfl
  | cons item items ih =>
      rw [events, List.filterMap_append, lines_itemEvents, ih, diagnostics_cons, List.map_append]

theorem isQuiet_itemEvents (collector : Collector σ) (item : Item) :
    ∀ event ∈ collector.itemEvents item, event.IsQuiet := by
  cases item with
  | token token =>
      simp +contextual [itemEvents, Token.traceRecord?, Event.IsQuiet]
  | diagnostic diagnostic =>
      simp [itemEvents, report, reportRecord, failureRecord, Event.IsQuiet]

theorem isQuiet_events (collector : Collector σ) (items : List Item) :
    ∀ event ∈ collector.events items, event.IsQuiet := by
  induction items generalizing collector with
  | nil => simp [events]
  | cons item items ih =>
      exact List.forall_mem_append.mpr ⟨collector.isQuiet_itemEvents item, ih _⟩

end Collector

namespace Transcript

theorem events_add (transcript : Transcript σ) (item : Item) :
    (transcript.add item).events.toList =
      transcript.events.toList ++ transcript.collector.itemEvents item := by
  cases item <;> simp [add, Collector.itemEvents]

theorem collector_add (transcript : Transcript σ) (item : Item) :
    (transcript.add item).collector = transcript.collector.afterItem item := by
  cases item <;> rfl

theorem events_foldl_add (transcript : Transcript σ) (items : List Item) :
    (items.foldl add transcript).events.toList =
      transcript.events.toList ++ transcript.collector.events items := by
  induction items generalizing transcript with
  | nil => simp [Collector.events]
  | cons item items ih =>
      rw [List.foldl_cons, ih, events_add, collector_add, List.append_assoc, Collector.events]

end Transcript

namespace Scanner

/-- A drain shows the events of the items left, and then its summary. -/
theorem events_drain (scanner : Scanner) (collector : Collector σ) :
    (scanner.drain collector).events.toList =
      collector.events scanner.items ++
        [.record (scanner.items.foldl Transcript.add (.start collector)).summary] := by
  rw [drain, Transcript.close, Array.toList_push, Transcript.events_foldl_add]
  rfl

theorem lines_drain (scanner : Scanner) (collector : Collector σ) :
    (scanner.drain collector).events.toList.filterMap Event.line? =
      (scanner.items.filterMap Item.diagnostic?).map Diagnostic.text := by
  rw [events_drain, List.filterMap_append, Collector.lines_events]
  exact List.append_nil _

theorem isQuiet_drain (scanner : Scanner) (collector : Collector σ) :
    ∀ event ∈ (scanner.drain collector).events.toList, event.IsQuiet := by
  rw [events_drain, List.forall_mem_append, List.forall_mem_singleton]
  exact ⟨collector.isQuiet_events _, by simp [Event.IsQuiet, Transcript.summary]⟩

end Scanner

end events
end LoxTokens
