import LoxTokens.Fixture.Comparison
import LoxTokens.Proofs.LossyDecoding
import LoxTokens.Proofs.TextLines

/-!
# Comparisons position by position

Comparing a stream with expectations adds one failure for every position at which the lines differ,
in their order, and leaves nothing expected.
-/

namespace LoxTokens

/-- The positions at which actual lines are not as expected. -/
def mismatches : (expected actual : List String) → List Mismatch
  | expected, [] => expected.map .missing
  | [], line :: actual => .unexpected line :: mismatches [] actual
  | line :: expected, other :: actual =>
      (if line = other then [] else [.different line other]) ++ mismatches expected actual

/-- Only lines that are as expected have no mismatch. -/
theorem mismatches_eq_nil_iff {expected actual : List String} :
    mismatches expected actual = [] ↔ expected = actual := by
  fun_induction mismatches expected actual with
  | case1 expected => exact List.map_eq_nil_iff
  | case2 line actual ih => simp
  | case3 line expected other actual ih =>
      by_cases same : line = other
      · simp [same, ih]
      · simp [same]

namespace Comparison

theorem close_foldl_addLine (stream : String) (actual : List String) (comparison : Comparison) :
    (actual.foldl (addLine stream) comparison).close stream =
      { expected := []
        failures := comparison.failures ++
          (mismatches comparison.expected actual).map (Mismatch.describe stream) } := by
  induction actual generalizing comparison with
  | nil => simp [close, mismatches, Function.comp_def]
  | cons other actual ih =>
      obtain ⟨expected, failures⟩ := comparison
      rw [List.foldl_cons, ih]
      cases expected with
      | nil => simp [addLine, mismatches]
      | cons line expected =>
          by_cases same : line = other
          · simp [addLine, mismatches, same]
          · simp [addLine, mismatches, same]

/-- A comparison adds the mismatches of a stream to the failures, and nothing stays expected. -/
theorem addStream_eq (stream : String) (comparison : Comparison) (bytes : List UInt8) :
    comparison.addStream stream bytes =
      { expected := []
        failures := comparison.failures ++
          (mismatches comparison.expected (linesOf bytes)).map (Mismatch.describe stream) } :=
  close_foldl_addLine stream (linesOf bytes) comparison

end Comparison

/-! ## Positions -/

/-- The failure at one position of a stream, if the two sides do not hold the same line there. -/
def failureAt? (stream : String) (expected actual : List String) (index : Nat) : Option String :=
  match expected[index]?, actual[index]? with
  | some line, some other =>
      if line = other then none
      else some (stream ++ ": expected: " ++ line ++ ", actual: " ++ other)
  | none, some other => some (stream ++ ": unexpected output: " ++ other)
  | some line, none => some (stream ++ ": expected, not found: " ++ line)
  | none, none => none

/-- The failures at all positions that one of the two sides holds, in their order. -/
def failuresBetween (stream : String) (expected actual : List String) : List String :=
  (List.range (max expected.length actual.length)).filterMap (failureAt? stream expected actual)

section positions

variable {stream line other : String} {expected actual : List String}

theorem filterMap_range_succ {α : Type} (count : Nat) (select : Nat → Option α) :
    (List.range (count + 1)).filterMap select =
      (select 0).toList ++ (List.range count).filterMap fun index => select (index + 1) := by
  rw [List.range_succ_eq_map, List.filterMap_cons, List.filterMap_map]
  cases select 0 <;> rfl

theorem failuresBetween_cons_nil :
    failuresBetween stream (line :: expected) [] =
      (stream ++ ": expected, not found: " ++ line) :: failuresBetween stream expected [] := by
  simp only [failuresBetween, List.length_cons, List.length_nil, Nat.max_zero,
    filterMap_range_succ]
  rfl

theorem failuresBetween_nil_cons :
    failuresBetween stream [] (other :: actual) =
      (stream ++ ": unexpected output: " ++ other) :: failuresBetween stream [] actual := by
  simp only [failuresBetween, List.length_cons, List.length_nil, Nat.zero_max,
    filterMap_range_succ]
  rfl

theorem failuresBetween_cons_cons :
    failuresBetween stream (line :: expected) (other :: actual) =
      (if line = other then [] else [stream ++ ": expected: " ++ line ++ ", actual: " ++ other]) ++
        failuresBetween stream expected actual := by
  have first : failureAt? stream (line :: expected) (other :: actual) 0 =
      if line = other then none
      else some (stream ++ ": expected: " ++ line ++ ", actual: " ++ other) := rfl
  simp only [failuresBetween, List.length_cons, Nat.add_max_add_right, filterMap_range_succ, first]
  split <;> rfl

/-- The mismatches of two sides are the failures at their positions. -/
theorem map_describe_mismatches :
    (mismatches expected actual).map (Mismatch.describe stream) =
      failuresBetween stream expected actual := by
  fun_induction mismatches expected actual with
  | case1 expected =>
      induction expected with
      | nil => rfl
      | cons line expected ih =>
          rw [failuresBetween_cons_nil, ← ih]
          rfl
  | case2 line actual ih =>
      rw [failuresBetween_nil_cons, List.map_cons, ih]
      rfl
  | case3 line expected other actual ih =>
      rw [failuresBetween_cons_cons, List.map_append, ih]
      split <;> rfl

theorem failuresBetween_eq_nil_iff :
    failuresBetween stream expected actual = [] ↔ expected = actual := by
  rw [← map_describe_mismatches, List.map_eq_nil_iff, mismatches_eq_nil_iff]

end positions

namespace Comparison

/-- A comparison of a stream with expectations has found what differs from the actual lines. -/
structure HasFound (stream : String) (before after : Comparison) (actual : List String) :
    Prop where
  /-- Nothing stays expected. -/
  nothing_expected : after.expected = []
  /-- Each position at which the lines differ adds one failure to those found before. -/
  failures : after.failures.toList =
    before.failures.toList ++ failuresBetween stream before.expected actual
  /-- Nothing is added exactly if the lines are as expected. -/
  unchanged_iff : after.failures = before.failures ↔ before.expected = actual

/-- A comparison finds the positions at which the lines of the decoded bytes are not as expected. -/
theorem addStream_hasFound (stream : String) (comparison : Comparison) (bytes : List UInt8) :
    ∃ text lines, Utf8.Replaces bytes text ∧ Lines.CutsInto text lines ∧
      HasFound stream comparison (comparison.addStream stream bytes)
        (lines.map String.ofList) := by
  refine ⟨Utf8.decodeLossy bytes, Lines.cut (Utf8.decodeLossy bytes),
    Utf8.decodeLossy_eq_iff.mp rfl, Lines.cut_eq_iff.mp rfl, ?_⟩
  have result_eq := addStream_eq stream comparison bytes
  rw [map_describe_mismatches] at result_eq
  refine ⟨by rw [result_eq], by simp [result_eq, linesOf, Lines.ofText], ?_⟩
  rw [result_eq, ← Array.toList_inj]
  simp [failuresBetween_eq_nil_iff, linesOf, Lines.ofText]

end Comparison
end LoxTokens
