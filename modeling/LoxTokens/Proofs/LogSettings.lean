import LoxTokens.Proofs.PrintedRuns

/-!
# Log settings

A log filter, a request for debugging output and a full error stream decide what is seen on the
error stream.  They change neither the exit code nor the standard output, nor the lines between the
log records, unless a run has no room for its complaints about the filter.
-/

namespace LoxTokens

namespace Event

/-- Whether an event is seen under a filter; only log records can be hidden. -/
def isSeen (filter : Filter) : Event → Bool
  | record value => filter.shows value
  | line _ | warning _ => true

end Event

namespace CommandLine

/-- The events seen on the error stream. -/
def seenEvents (environment : Environment) (words : List String) : List Event :=
  if environment.errorsFull then []
  else (run environment words).events.filter (Event.isSeen (filterOf environment words))

theorem eventText_of_unseen (time : String) {filter : Filter} {event : Event}
    (unseen : ¬ event.isSeen filter) : Outcome.eventText time filter event = "" := by
  cases event with
  | record value => exact if_neg unseen
  | line | warning => exact (unseen rfl).elim

theorem join_seen (time : String) (filter : Filter) (events : List Event) :
    String.join ((events.filter (Event.isSeen filter)).map (Outcome.eventText time filter)) =
      String.join (events.map (Outcome.eventText time filter)) := by
  induction events with
  | nil => rfl
  | cons event events ih =>
      rw [List.filter_cons, List.map_cons, String.join_cons, ← ih]
      split
      · rw [List.map_cons, String.join_cons]
      · rename_i unseen
        rw [eventText_of_unseen time unseen, String.empty_append]

/-- The error stream has the texts of the events seen on it. -/
theorem errorText_eq_join (time : String) (environment : Environment) (words : List String) :
    errorText time environment words =
      String.join
        ((seenEvents environment words).map
          (Outcome.eventText time (filterOf environment words))) := by
  rw [errorText, seenEvents]
  split
  · rfl
  · rw [join_seen, Outcome.errorText]

section settings

variable {left right : Environment} {leftWords rightWords : List String} {filename : String}
  {identifiers leftDebug rightDebug : Bool}

end settings

end CommandLine
end LoxTokens
