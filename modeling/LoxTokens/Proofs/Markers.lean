import LoxTokens.Fixture.Expectations
import LoxTokens.Proofs.TextLines

/-!
# Markers and expectations

A marker is found where it stands leftmost, and is not found where it does not stand.  Without a
word about the exit code, the expectations of a fixture follow from what its lines say: the output
and the errors in their order, and an exit code that tells whether errors are expected.
-/

namespace LoxTokens

/--
A marker does not stand in a comment whose beginning is another and has no further slash, unless it
stands in the rest.
-/
theorem not_infix_comment (marker front rest : List Char) (plain : '/' ∉ front)
    (nonempty : front ≠ [])
    (differs : ('/' :: '/' :: marker).isPrefixOf ('/' :: '/' :: (front ++ rest)) = false)
    (absent : ¬ ('/' :: '/' :: marker) <:+: rest) :
    ¬ ('/' :: '/' :: marker) <:+: '/' :: '/' :: (front ++ rest) := by
  intro stands
  rcases List.infix_cons_iff.mp stands with first | later
  · exact Bool.false_ne_true (differs.symm.trans (List.isPrefixOf_iff_prefix.mpr first))
  · rcases List.infix_cons_iff.mp later with second | inside
    · -- The second slash of the marker would be the first character of the front.
      cases front with
      | nil => contradiction
      | cons character front =>
          obtain ⟨-, second⟩ := List.cons_prefix_cons.mp second
          obtain ⟨rfl, -⟩ := List.cons_prefix_cons.mp second
          exact plain List.mem_cons_self
    · exact absent (infix_of_notMem plain inside)

namespace Expectations

/-- The beginning of every marker. -/
def markerStem : List Char := "// expect".toList

/-! ## Single lines -/

section markers

variable {marker text rest : List Char} {accepted : List Char → Bool}

theorem after?_eq_none (absent : ¬ marker <:+: text) : after? marker accepted text = none := by
  induction text with
  | nil => rfl
  | cons first rest ih =>
      have later : ¬ marker <:+: rest := fun inside => absent (List.infix_cons inside)
      have front : marker.isPrefixOf (first :: rest) = false := by
        rw [Bool.eq_false_iff]
        intro stands
        exact absent (List.isPrefixOf_iff_prefix.mp stands).isInfix
      simp [after?, front, ih later]

theorem after?_append (nonempty : marker ≠ []) (accepts : accepted rest) :
    after? marker accepted (marker ++ rest) = some rest := by
  cases marker with
  | nil => contradiction
  | cons first marker =>
      have front : (first :: marker).isPrefixOf (first :: (marker ++ rest)) = true :=
        List.isPrefixOf_iff_prefix.mpr (List.prefix_append (first :: marker) rest)
      simp [after?, front, accepts]

end markers

/-- A line without the beginning of a marker says nothing. -/
theorem remark?_eq_none {line : List Char} (unmarked : ¬ markerStem <:+: line) :
    remark? line = none := by
  have absent (marker : List Char) (begins : markerStem <+: marker) : ¬ marker <:+: line :=
    fun inside => unmarked (begins.isInfix.trans inside)
  rw [remark?, afterMarker?, after?_eq_none (absent outputMarker (by decide))]
  dsimp only
  rw [afterMarker?, after?_eq_none (absent errorMarker (by decide))]
  dsimp only
  rw [afterExitMarker?, after?_eq_none (absent exitMarker (by decide))]
  rfl

theorem remark?_output (line : List Char) :
    remark? (outputMarker ++ line) = some (.output line) := by
  have found : afterMarker? outputMarker (outputMarker ++ line) = some line :=
    after?_append (by decide) rfl
  rw [remark?, found]

theorem not_infix_plain {marker line : List Char} (plain : '/' ∉ line) :
    ¬ ('/' :: marker) <:+: line := fun inside => plain (inside.subset List.mem_cons_self)

theorem remark?_error {line : List Char} (plain : '/' ∉ line) :
    remark? (errorMarker ++ line) = some (.error line) := by
  have absent : ¬ outputMarker <:+: errorMarker ++ line :=
    not_infix_comment " expect: ".toList " expect error: ".toList line (by decide) (by decide) rfl
      (not_infix_plain plain)
  have found : afterMarker? errorMarker (errorMarker ++ line) = some line :=
    after?_append (by decide) rfl
  rw [remark?, afterMarker?, after?_eq_none absent]
  dsimp only
  rw [found]

theorem exitMarker_not_infix_output {line : List Char} (unmarked : ¬ markerStem <:+: line) :
    ¬ exitMarker <:+: outputMarker ++ line := by
  have begins : markerStem <+: exitMarker := by decide
  exact not_infix_comment " expect exit: ".toList " expect: ".toList line (by decide) (by decide)
    rfl fun inside => unmarked (begins.isInfix.trans inside)

theorem exitMarker_not_infix_error {line : List Char} (plain : '/' ∉ line) :
    ¬ exitMarker <:+: errorMarker ++ line :=
  not_infix_comment " expect exit: ".toList " expect error: ".toList line (by decide) (by decide)
    rfl (not_infix_plain plain)

/-! ## All lines -/

/-- The line of the standard output that a remark is about, if it is about one. -/
def Remark.output? : Remark → Option String
  | output line => some (String.ofList line)
  | error _ | exit _ => none

/-- The line of the error stream that a remark is about, if it is about one. -/
def Remark.error? : Remark → Option String
  | error line => some (String.ofList line)
  | output _ | exit _ => none

/-- The exit code that a remark gives, if it gives one. -/
def Remark.exitCode? : Remark → Option Nat
  | exit digits => some (Nat.ofDigitChars 10 digits 0)
  | output _ | error _ => none

/-- Lines whose digits can be read add output and errors in their order; the last code counts. -/
theorem addLines_of_readable {lines : List (List Char)}
    (readable : ∀ digits, .exit digits ∈ lines.filterMap remark? →
      readDigits 0 digits = .ok (Nat.ofDigitChars 10 digits 0))
    (expectations : Expectations) :
    expectations.addLines lines =
      .ok
        { output := expectations.output ++ (lines.filterMap remark?).filterMap Remark.output?
          errors := expectations.errors ++ (lines.filterMap remark?).filterMap Remark.error?
          exitCode :=
            ((lines.filterMap remark?).filterMap Remark.exitCode?).getLast?.getD
              expectations.exitCode } := by
  induction lines generalizing expectations with
  | nil => simp [addLines]
  | cons line lines ih =>
      cases remark : remark? line with
      | none =>
          rw [List.filterMap_cons_none remark] at readable ⊢
          rw [addLines, addLine, remark]
          exact ih readable expectations
      | some said =>
          rw [List.filterMap_cons_some remark] at readable ⊢
          have later (digits : List Char) (member : .exit digits ∈ lines.filterMap remark?) :=
            readable digits (List.mem_cons_of_mem said member)
          cases said with
          | output text =>
              rw [addLines, addLine, remark]
              simp [ih later, Remark.output?, Remark.error?, Remark.exitCode?, List.filterMap_cons]
          | error text =>
              rw [addLines, addLine, remark]
              simp [ih later, Remark.output?, Remark.error?, Remark.exitCode?, List.filterMap_cons]
          | exit digits =>
              have read := readable digits List.mem_cons_self
              rw [addLines, addLine, remark]
              simp [read, ih later, Remark.output?, Remark.error?, Remark.exitCode?,
                List.filterMap_cons, List.getLast?_cons]

/-- Lines that say nothing about the exit code leave it as it is. -/
theorem addLines_of_no_exit {lines : List (List Char)}
    (no_exit : ∀ digits, .exit digits ∉ lines.filterMap remark?) (expectations : Expectations) :
    expectations.addLines lines =
      .ok
        { expectations with
          output := expectations.output ++ (lines.filterMap remark?).filterMap Remark.output?
          errors := expectations.errors ++ (lines.filterMap remark?).filterMap Remark.error? } := by
  have no_code : (lines.filterMap remark?).filterMap Remark.exitCode? = [] := by
    refine List.filterMap_eq_nil_iff.mpr fun said member => ?_
    cases said with
    | output | error => rfl
    | exit digits => exact (no_exit digits member).elim
  rw [addLines_of_readable fun digits member => (no_exit digits member).elim, no_code]
  rfl

/-- A text that says nothing about the exit code expects one that tells whether it has errors. -/
theorem read_of_no_exit {contents : List Char} {output errors : List String}
    (no_exit : ∀ digits, .exit digits ∉ (Lines.cut contents).filterMap remark?)
    (absent : ¬ exitMarker <:+: contents)
    (output_eq : ((Lines.cut contents).filterMap remark?).filterMap Remark.output? = output)
    (errors_eq : ((Lines.cut contents).filterMap remark?).filterMap Remark.error? = errors) :
    read contents =
      .ok
        { output := output.toArray
          errors := errors.toArray
          exitCode := if errors = [] then 0 else defaultErrorCode } := by
  have unsaid : afterExitMarker? contents = none := after?_eq_none absent
  rw [read, addLines_of_no_exit no_exit, output_eq, errors_eq]
  cases errors with
  | nil => simp [Except.map, withDefaultCode]
  | cons error errors => simp [Except.map, withDefaultCode, unsaid]

end Expectations
end LoxTokens
