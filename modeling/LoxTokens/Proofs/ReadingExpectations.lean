import Mathlib.Data.List.Forall2
import Mathlib.Data.List.ReduceOption
import LoxTokens.Proofs.Markers

/-!
# What the lines of a fixture say

Each line of a fixture says one thing at most: what stands behind the first marker of the output,
else behind the first marker of the errors, else the digits behind the first marker of the exit code
that has some.  Reading a fixture collects what its lines say, or fails at the first line whose
digits give no exit code.
-/

namespace LoxTokens
namespace Expectations

/-! ## Where a marker stands first -/

/-- A marker stands in a text, with a rest behind it that is allowed. -/
def Stands (marker : List Char) (allowed : List Char → Prop) (text : List Char) : Prop :=
  ∃ front rest, text = front ++ (marker ++ rest) ∧ allowed rest

/-- What is left of a text behind the leftmost place of a marker before what is allowed. -/
def FirstAfter (marker : List Char) (allowed : List Char → Prop) (text rest : List Char) : Prop :=
  ∃ front, text = front ++ (marker ++ rest) ∧ allowed rest ∧
    ∀ other later, text = other ++ (marker ++ later) → allowed later →
      front.length ≤ other.length

section markers

variable {marker text rest : List Char} {allowed : List Char → Prop}
  {accepted : List Char → Bool}

theorem FirstAfter.stands (found : FirstAfter marker allowed text rest) :
    Stands marker allowed text := by
  obtain ⟨front, text_eq, allows, -⟩ := found
  exact ⟨front, rest, text_eq, allows⟩

/-- There is only one leftmost place. -/
theorem FirstAfter.unique {other : List Char} (found : FirstAfter marker allowed text rest)
    (otherwise : FirstAfter marker allowed text other) : rest = other := by
  obtain ⟨front, text_eq, allows, leftmost⟩ := found
  obtain ⟨other_front, other_eq, other_allows, other_leftmost⟩ := otherwise
  have length_eq : front.length = other_front.length :=
    Nat.le_antisymm (leftmost _ _ other_eq other_allows) (other_leftmost _ _ text_eq allows)
  obtain ⟨-, marked_eq⟩ := List.append_inj (text_eq.symm.trans other_eq) length_eq
  exact List.append_cancel_left marked_eq

/-- What stands nowhere in front of a character stands behind it. -/
theorem stands_cons_iff {first : Char}
    (elsewhere : ∀ rest, first :: text = marker ++ rest → ¬ allowed rest) :
    Stands marker allowed (first :: text) ↔ Stands marker allowed text := by
  constructor
  · rintro ⟨front, rest, text_eq, allows⟩
    cases front with
    | nil => exact (elsewhere rest text_eq allows).elim
    | cons character front =>
        obtain ⟨-, text_eq⟩ := List.cons.inj text_eq
        exact ⟨front, rest, text_eq, allows⟩
  · rintro ⟨front, rest, text_eq, allows⟩
    exact ⟨first :: front, rest, congrArg (List.cons first) text_eq, allows⟩

theorem FirstAfter.cons {first : Char}
    (elsewhere : ∀ rest, first :: text = marker ++ rest → ¬ allowed rest)
    (found : FirstAfter marker allowed text rest) :
    FirstAfter marker allowed (first :: text) rest := by
  obtain ⟨front, text_eq, allows, leftmost⟩ := found
  refine ⟨first :: front, congrArg (List.cons first) text_eq, allows, ?_⟩
  intro other later other_eq other_allows
  cases other with
  | nil => exact (elsewhere later other_eq other_allows).elim
  | cons character other =>
      obtain ⟨-, other_eq⟩ := List.cons.inj other_eq
      exact Nat.succ_le_succ (leftmost other later other_eq other_allows)

/-- A search finds the leftmost place, or there is none. -/
theorem after?_cases (nonempty : marker ≠ []) (accepts : ∀ rest, accepted rest ↔ allowed rest)
    (text : List Char) :
    (∃ rest, after? marker accepted text = some rest ∧ FirstAfter marker allowed text rest) ∨
      (after? marker accepted text = none ∧ ¬ Stands marker allowed text) := by
  induction text with
  | nil =>
      refine .inr ⟨rfl, ?_⟩
      rintro ⟨front, rest, text_eq, -⟩
      simp [nonempty] at text_eq
  | cons first text ih =>
      by_cases here : marker.isPrefixOf (first :: text) &&
          accepted ((first :: text).drop marker.length)
      · left
        refine ⟨(first :: text).drop marker.length, by rw [after?, if_pos here], [], ?_⟩
        obtain ⟨stands, accept⟩ := Bool.and_eq_true_iff.mp here
        have whole := List.prefix_iff_eq_append.mp (List.isPrefixOf_iff_prefix.mp stands)
        exact ⟨whole.symm, (accepts _).mp accept, fun _ _ _ _ => Nat.zero_le _⟩
      · have elsewhere (rest : List Char) (text_eq : first :: text = marker ++ rest) :
            ¬ allowed rest := by
          intro allows
          apply here
          rw [text_eq, List.drop_left, Bool.and_eq_true]
          exact ⟨List.isPrefixOf_iff_prefix.mpr (List.prefix_append marker rest),
            (accepts rest).mpr allows⟩
        rw [after?, if_neg here, stands_cons_iff elsewhere]
        rcases ih with ⟨rest, found, first_after⟩ | absent
        · exact .inl ⟨rest, found, first_after.cons elsewhere⟩
        · exact .inr absent

theorem after?_eq_some_iff (nonempty : marker ≠ [])
    (accepts : ∀ rest, accepted rest ↔ allowed rest) :
    after? marker accepted text = some rest ↔ FirstAfter marker allowed text rest := by
  rcases after?_cases nonempty accepts text with ⟨other, found, first_after⟩ | ⟨missed, absent⟩
  · rw [found, Option.some_inj]
    exact ⟨fun same => same ▸ first_after, fun otherwise => first_after.unique otherwise⟩
  · rw [missed]
    exact iff_of_false (by simp) fun otherwise => absent otherwise.stands

theorem after?_eq_none_iff (nonempty : marker ≠ [])
    (accepts : ∀ rest, accepted rest ↔ allowed rest) :
    after? marker accepted text = none ↔ ¬ Stands marker allowed text := by
  rcases after?_cases nonempty accepts text with ⟨other, found, first_after⟩ | ⟨missed, absent⟩
  · rw [found]
    exact iff_of_false (by simp) fun otherwise => otherwise first_after.stands
  · exact iff_of_true missed absent

end markers

/-! ## What a line says -/

/-- A text whose first character is a decimal digit. -/
def BeginsWithDigit (text : List Char) : Prop :=
  ∃ digit rest, text = digit :: rest ∧ DecimalDigit.isDecimalDigit digit

/-- The marker of the exit code stands in a text with a digit behind it. -/
def GivesExit (text : List Char) : Prop := Stands "// expect exit: ".toList BeginsWithDigit text

/-- What a line says, if it says something. -/
inductive Says (line : List Char) : Option Remark → Prop
  /-- What stands behind the first marker of the output. -/
  | output {text : List Char}
      (found : FirstAfter "// expect: ".toList (fun _ => True) line text) :
      Says line (some (.output text))
  /-- Without a marker of the output, what stands behind the first marker of the errors. -/
  | error {text : List Char} (no_output : ¬ "// expect: ".toList <:+: line)
      (found : FirstAfter "// expect error: ".toList (fun _ => True) line text) :
      Says line (some (.error text))
  /-- Without either marker, all digits behind the first marker of the exit code that has some. -/
  | exit {text : List Char} (no_output : ¬ "// expect: ".toList <:+: line)
      (no_error : ¬ "// expect error: ".toList <:+: line)
      (found : FirstAfter "// expect exit: ".toList BeginsWithDigit line text) :
      Says line (some (.exit (text.takeWhile DecimalDigit.isDecimalDigit)))
  /-- Nothing without a marker. -/
  | nothing (no_output : ¬ "// expect: ".toList <:+: line)
      (no_error : ¬ "// expect error: ".toList <:+: line) (no_exit : ¬ GivesExit line) :
      Says line none

theorem stands_iff_infix {marker text : List Char} :
    Stands marker (fun _ => True) text ↔ marker <:+: text := by
  simp only [Stands, and_true, List.IsInfix, List.append_assoc, eq_comm]

theorem any_isDecimalDigit_iff {text : List Char} :
    text.head?.any DecimalDigit.isDecimalDigit ↔ BeginsWithDigit text := by
  cases text <;> simp [BeginsWithDigit]

section searches

variable {marker text rest : List Char}

theorem afterMarker?_eq_some_iff (nonempty : marker ≠ []) :
    afterMarker? marker text = some rest ↔ FirstAfter marker (fun _ => True) text rest :=
  after?_eq_some_iff nonempty fun _ => by simp

theorem afterMarker?_eq_none_iff (nonempty : marker ≠ []) :
    afterMarker? marker text = none ↔ ¬ marker <:+: text := by
  rw [← stands_iff_infix]
  exact after?_eq_none_iff nonempty fun _ => by simp

theorem afterExitMarker?_eq_some_iff :
    afterExitMarker? text = some rest ↔
      FirstAfter "// expect exit: ".toList BeginsWithDigit text rest :=
  after?_eq_some_iff (by decide) fun _ => any_isDecimalDigit_iff

theorem afterExitMarker?_eq_none_iff : afterExitMarker? text = none ↔ ¬ GivesExit text :=
  after?_eq_none_iff (by decide) fun _ => any_isDecimalDigit_iff

end searches

/-- A line is read as what it says. -/
theorem remark?_eq_iff {line : List Char} {said : Option Remark} :
    remark? line = said ↔ Says line said := by
  have output_nonempty : outputMarker ≠ [] := by decide
  have error_nonempty : errorMarker ≠ [] := by decide
  constructor
  · rintro rfl
    rw [remark?]
    cases output : afterMarker? outputMarker line with
    | some text => exact .output ((afterMarker?_eq_some_iff output_nonempty).mp output)
    | none =>
        have no_output := (afterMarker?_eq_none_iff output_nonempty).mp output
        cases error : afterMarker? errorMarker line with
        | some text =>
            exact .error no_output ((afterMarker?_eq_some_iff error_nonempty).mp error)
        | none =>
            have no_error := (afterMarker?_eq_none_iff error_nonempty).mp error
            cases exit : afterExitMarker? line with
            | some text => exact .exit no_output no_error (afterExitMarker?_eq_some_iff.mp exit)
            | none => exact .nothing no_output no_error (afterExitMarker?_eq_none_iff.mp exit)
  · intro saying
    cases saying with
    | output found => rw [remark?, (afterMarker?_eq_some_iff output_nonempty).mpr found]
    | error no_output found =>
        rw [remark?, (afterMarker?_eq_none_iff output_nonempty).mpr no_output]
        dsimp only
        rw [(afterMarker?_eq_some_iff error_nonempty).mpr found]
    | exit no_output no_error found =>
        rw [remark?, (afterMarker?_eq_none_iff output_nonempty).mpr no_output]
        dsimp only
        rw [(afterMarker?_eq_none_iff error_nonempty).mpr no_error]
        dsimp only
        rw [afterExitMarker?_eq_some_iff.mpr found, Option.map_some]
    | nothing no_output no_error no_exit =>
        rw [remark?, (afterMarker?_eq_none_iff output_nonempty).mpr no_output]
        dsimp only
        rw [(afterMarker?_eq_none_iff error_nonempty).mpr no_error]
        dsimp only
        rw [afterExitMarker?_eq_none_iff.mpr no_exit, Option.map_none]

/-! ## Digits of an exit code -/

/-- Digits that give no exit code: some are not Latin, or their number is too large. -/
def IsFaulty (digits : List Char) : Prop :=
  (∃ digit ∈ digits, ¬ digit.isDigit) ∨ 2147483647 < Nat.ofDigitChars 10 digits 0

/-- What is wrong with digits: the Latin ones in front are too large, or else others follow. -/
def faultOf (digits : List Char) : NumeralFault :=
  if 2147483647 < Nat.ofDigitChars 10 (digits.takeWhile Char.isDigit) 0 then .tooLarge
  else .invalidDigit

theorem le_ofDigitChars (digits : List Char) (value : Nat) :
    value ≤ Nat.ofDigitChars 10 digits value := by
  induction digits generalizing value with
  | nil => exact Nat.le_refl value
  | cons digit digits ih =>
      rw [Nat.ofDigitChars_cons]
      have := ih (10 * value + (digit.toNat - '0'.toNat))
      omega

/-- Digits are read up to the one that is not Latin or makes the number too large. -/
theorem readDigits_eq {value : Nat} (in_range : value ≤ 2147483647) (digits : List Char) :
    readDigits value digits =
      if 2147483647 < Nat.ofDigitChars 10 (digits.takeWhile Char.isDigit) value then
        .error .tooLarge
      else if digits.all Char.isDigit then .ok (Nat.ofDigitChars 10 digits value)
      else .error .invalidDigit := by
  induction digits generalizing value with
  | nil => simp [readDigits, Nat.not_lt_of_le in_range]
  | cons digit digits ih =>
      by_cases latin : digit.isDigit
      · have next_eq : value * 10 + (digit.toNat - '0'.toNat) =
            10 * value + (digit.toNat - '0'.toNat) := by rw [Nat.mul_comm]
        rw [readDigits, if_pos latin, List.takeWhile_cons_of_pos latin, List.all_cons, latin,
          Bool.true_and, Nat.ofDigitChars_cons, Nat.ofDigitChars_cons]
        dsimp only
        rw [next_eq]
        split
        · rename_i next_in_range
          exact ih next_in_range
        · rename_i out_of_range
          have large : ¬ 10 * value + (digit.toNat - '0'.toNat) ≤ 2147483647 := out_of_range
          have grows := le_ofDigitChars (digits.takeWhile Char.isDigit)
            (10 * value + (digit.toNat - '0'.toNat))
          rw [if_pos (by omega)]
      · rw [readDigits, if_neg latin, List.takeWhile_cons_of_neg latin, List.all_cons,
          Bool.eq_false_iff.mpr latin, Bool.false_and]
        simp [Nat.not_lt_of_le in_range]

theorem readDigits_of_faulty {digits : List Char} (faulty : IsFaulty digits) :
    readDigits 0 digits = .error (faultOf digits) := by
  rw [readDigits_eq (Nat.zero_le _), faultOf]
  split
  · rfl
  · rename_i small
    split
    · rename_i latin
      rw [List.all_eq_true] at latin
      rcases faulty with ⟨digit, member, other⟩ | large
      · exact (other (latin digit member)).elim
      · rw [List.takeWhile_eq_self_iff.mpr latin] at small
        exact (small large).elim
    · rfl

theorem readDigits_of_not_faulty {digits : List Char} (sound : ¬ IsFaulty digits) :
    readDigits 0 digits = .ok (Nat.ofDigitChars 10 digits 0) := by
  obtain ⟨latin, small⟩ := not_or.mp sound
  have all_latin : ∀ digit ∈ digits, digit.isDigit := by simpa using latin
  rw [readDigits_eq (Nat.zero_le _), List.takeWhile_eq_self_iff.mpr all_latin, if_neg small,
    if_pos (List.all_eq_true.mpr all_latin)]

/-! ## All lines -/

/-- A line gives digits that give no exit code. -/
def SaysFaulty (line : List Char) : Prop :=
  ∃ digits, Says line (some (.exit digits)) ∧ IsFaulty digits

/-- Expectations collected from what lines say, where `remarks` has one entry for each line. -/
structure Collects (lines : List (List Char)) (remarks : List (Option Remark))
    (expectations : Expectations) : Prop where
  /-- Each line says what its entry tells. -/
  saying : List.Forall₂ Says lines remarks
  /-- The lines of the output in their order. -/
  output : expectations.output.toList = remarks.reduceOption.filterMap Remark.output?
  /-- The lines of the errors in their order. -/
  errors : expectations.errors.toList = remarks.reduceOption.filterMap Remark.error?
  /-- Where errors are expected and no line gives an exit code, that of errors is expected. -/
  failing : expectations.errors.toList ≠ [] → (∀ line ∈ lines, ¬ GivesExit line) →
    expectations.exitCode = 65
  /-- Otherwise the last exit code that a line says counts, or zero if none says one. -/
  given : (expectations.errors.toList = [] ∨ ∃ line ∈ lines, GivesExit line) →
    expectations.exitCode = (remarks.reduceOption.filterMap Remark.exitCode?).getLast?.getD 0

/-- What reading a fixture with these lines gives. -/
structure IsReading (lines : List (List Char)) (result : Except NumeralFault Expectations) :
    Prop where
  /-- Reading fails exactly if the digits of some line give no exit code. -/
  fails_iff : (∃ fault, result = .error fault) ↔ ∃ line ∈ lines, SaysFaulty line
  /-- The first such line tells why. -/
  first_fault : ∀ front line back digits, lines = front ++ line :: back →
    (∀ other ∈ front, ¬ SaysFaulty other) → Says line (some (.exit digits)) → IsFaulty digits →
    result = .error (faultOf digits)
  /-- Unless it fails, reading collects what the lines say. -/
  collects : ∀ expectations, result = .ok expectations →
    ∃ remarks, Collects lines remarks expectations

section lines

variable {lines : List (List Char)}

theorem readable_of_not_faulty (sound : ∀ line ∈ lines, ¬ SaysFaulty line) (digits : List Char)
    (member : .exit digits ∈ lines.filterMap remark?) :
    readDigits 0 digits = .ok (Nat.ofDigitChars 10 digits 0) := by
  obtain ⟨line, line_member, said⟩ := List.mem_filterMap.mp member
  exact readDigits_of_not_faulty fun faulty =>
    sound line line_member ⟨digits, remark?_eq_iff.mp said, faulty⟩

theorem addLine_of_faulty {line digits : List Char} (saying : Says line (some (.exit digits)))
    (faulty : IsFaulty digits) (expectations : Expectations) :
    expectations.addLine line = .error (faultOf digits) := by
  simp only [addLine, remark?_eq_iff.mpr saying, readDigits_of_faulty faulty]

theorem addLines_append {front : List (List Char)} {expectations later : Expectations}
    (read : expectations.addLines front = .ok later) (back : List (List Char)) :
    expectations.addLines (front ++ back) = later.addLines back := by
  induction front generalizing expectations with
  | nil =>
      obtain rfl := Except.ok.inj read
      rfl
  | cons line front ih =>
      rw [List.cons_append, addLines]
      rw [addLines] at read
      cases step : expectations.addLine line with
      | error fault => simp [step] at read
      | ok next =>
          rw [step] at read
          exact ih read

/-- The first line whose digits give no exit code ends the reading. -/
theorem addLines_of_first_faulty {front back : List (List Char)} {line digits : List Char}
    (sound : ∀ other ∈ front, ¬ SaysFaulty other) (saying : Says line (some (.exit digits)))
    (faulty : IsFaulty digits) (expectations : Expectations) :
    expectations.addLines (front ++ line :: back) = .error (faultOf digits) := by
  rw [addLines_append (addLines_of_readable (readable_of_not_faulty sound) expectations), addLines,
    addLine_of_faulty saying faulty]

/-- Among lines that are not all sound, one is the first. -/
theorem exists_first_faulty (faulty : ∃ line ∈ lines, SaysFaulty line) :
    ∃ front line back, lines = front ++ line :: back ∧ SaysFaulty line ∧
      ∀ other ∈ front, ¬ SaysFaulty other := by
  induction lines with
  | nil => simp at faulty
  | cons line lines ih =>
      by_cases here : SaysFaulty line
      · exact ⟨[], line, lines, rfl, here, by simp⟩
      · have later : ∃ line ∈ lines, SaysFaulty line := by simpa [here] using faulty
        obtain ⟨front, first, back, rfl, faulty, sound⟩ := ih later
        exact ⟨line :: front, first, back, rfl, faulty, List.forall_mem_cons.mpr ⟨here, sound⟩⟩

end lines

/-! ## The whole text -/

/-- A text gives an exit code where the marker stands with a digit. -/
theorem givesExit_iff {text : List Char} :
    GivesExit text ↔
      ∃ digit, DecimalDigit.isDecimalDigit digit ∧
        "// expect exit: ".toList ++ [digit] <:+: text := by
  constructor
  · rintro ⟨front, _, rfl, digit, rest, rfl, is_digit⟩
    exact ⟨digit, is_digit, front, rest, by simp⟩
  · rintro ⟨digit, is_digit, front, rest, rfl⟩
    exact ⟨front, digit :: rest, by simp, digit, rest, rfl, is_digit⟩

theorem notMem_append_digit {marker : List Char} {ending digit : Char} (absent : ending ∉ marker)
    (no_digit : DecimalDigit.isDecimalDigit ending = false)
    (is_digit : DecimalDigit.isDecimalDigit digit) : ending ∉ marker ++ [digit] := by
  have other : ending ≠ digit := by
    rintro rfl
    exact Bool.false_ne_true (no_digit.symm.trans is_digit)
  rw [List.mem_append, List.mem_singleton, not_or]
  exact ⟨absent, other⟩

/-- A text gives an exit code somewhere exactly if one of its lines does. -/
theorem givesExit_iff_of_cutsInto {contents : List Char} {lines : List (List Char)}
    (cuts : Lines.CutsInto contents lines) :
    GivesExit contents ↔ ∃ line ∈ lines, GivesExit line := by
  have in_line {digit : Char} (is_digit : DecimalDigit.isDecimalDigit digit) :
      "// expect exit: ".toList ++ [digit] <:+: contents ↔
        ∃ line ∈ lines, "// expect exit: ".toList ++ [digit] <:+: line :=
    Lines.infix_iff_of_cutsInto (by simp)
      (notMem_append_digit (by decide) (by decide) is_digit)
      (notMem_append_digit (by decide) (by decide) is_digit) cuts
  simp only [givesExit_iff]
  constructor
  · rintro ⟨digit, is_digit, stands⟩
    obtain ⟨line, member, inside⟩ := (in_line is_digit).mp stands
    exact ⟨line, member, digit, is_digit, inside⟩
  · rintro ⟨line, member, digit, is_digit, inside⟩
    exact ⟨digit, is_digit, (in_line is_digit).mpr ⟨line, member, inside⟩⟩

section default

variable {contents : List Char} {expectations : Expectations}

@[simp] theorem withDefaultCode_output :
    (withDefaultCode contents expectations).output = expectations.output := by
  unfold withDefaultCode
  split <;> rfl

@[simp] theorem withDefaultCode_errors :
    (withDefaultCode contents expectations).errors = expectations.errors := by
  unfold withDefaultCode
  split <;> rfl

theorem withDefaultCode_of_failing (failing : expectations.errors.toList ≠ [])
    (silent : ¬ GivesExit contents) :
    (withDefaultCode contents expectations).exitCode = 65 := by
  have fails : expectations.errors ≠ #[] := fun empty => failing (congrArg Array.toList empty)
  rw [withDefaultCode, afterExitMarker?_eq_none_iff.mpr silent]
  simp [fails, defaultErrorCode]

theorem withDefaultCode_of_given (given : expectations.errors.toList = [] ∨ GivesExit contents) :
    withDefaultCode contents expectations = expectations := by
  rcases given with empty | gives
  · have no_errors : expectations.errors = #[] := Array.toList_eq_nil_iff.mp empty
    simp [withDefaultCode, no_errors]
  · have found : afterExitMarker? contents ≠ none := mt afterExitMarker?_eq_none_iff.mp
      (not_not_intro gives)
    simp [withDefaultCode, found]

end default

/-- What lines say in their order, with the last exit code that they say. -/
def collected (lines : List (List Char)) : Expectations :=
  { output := ((lines.filterMap remark?).filterMap Remark.output?).toArray
    errors := ((lines.filterMap remark?).filterMap Remark.error?).toArray
    exitCode := ((lines.filterMap remark?).filterMap Remark.exitCode?).getLast?.getD 0 }

theorem read_of_sound {contents : List Char} {lines : List (List Char)}
    (cuts : Lines.CutsInto contents lines) (sound : ∀ line ∈ lines, ¬ SaysFaulty line) :
    read contents = .ok (withDefaultCode contents (collected lines)) := by
  rw [read, Lines.cut_of_cutsInto cuts, addLines_of_readable (readable_of_not_faulty sound),
    collected]
  simp [Except.map]

/-- Lines and a text that they make up say what was collected, with the default filled in. -/
theorem collects_withDefaultCode {contents : List Char} {lines : List (List Char)}
    (cuts : Lines.CutsInto contents lines) :
    Collects lines (lines.map remark?) (withDefaultCode contents (collected lines)) := by
  have remarks_eq : (lines.map remark?).reduceOption = lines.filterMap remark? := by
    rw [List.reduceOption, List.filterMap_map]
    rfl
  constructor
  · rw [List.forall₂_map_right_iff, List.forall₂_same]
    exact fun line _ => remark?_eq_iff.mp rfl
  · rw [withDefaultCode_output, remarks_eq]
    rfl
  · rw [withDefaultCode_errors, remarks_eq]
    rfl
  · rw [withDefaultCode_errors]
    intro failing silent
    refine withDefaultCode_of_failing failing ?_
    rw [givesExit_iff_of_cutsInto cuts]
    simpa using silent
  · rw [withDefaultCode_errors, ← givesExit_iff_of_cutsInto cuts, remarks_eq]
    intro given
    rw [withDefaultCode_of_given given]
    rfl

/-- The first line whose digits give no exit code tells why a text cannot be read. -/
theorem read_of_first_faulty {contents line digits : List Char} {front back : List (List Char)}
    (cuts : Lines.CutsInto contents (front ++ line :: back))
    (sound : ∀ other ∈ front, ¬ SaysFaulty other) (saying : Says line (some (.exit digits)))
    (faulty : IsFaulty digits) : read contents = .error (faultOf digits) := by
  rw [read, Lines.cut_of_cutsInto cuts, addLines_of_first_faulty sound saying faulty]
  rfl

/-- A fixture is cut into lines and read to what they say. -/
theorem read_isReading (contents : List Char) :
    ∃ lines, Lines.CutsInto contents lines ∧ IsReading lines (read contents) := by
  obtain ⟨lines, cuts⟩ := Lines.exists_cutsInto contents
  have fails_at_first (front : List (List Char)) (line : List Char) (back : List (List Char))
      (digits : List Char) (lines_eq : lines = front ++ line :: back) :
      (∀ other ∈ front, ¬ SaysFaulty other) → Says line (some (.exit digits)) → IsFaulty digits →
        read contents = .error (faultOf digits) :=
    read_of_first_faulty (lines_eq ▸ cuts)
  refine ⟨lines, cuts, ?_⟩
  by_cases some_faulty : ∃ line ∈ lines, SaysFaulty line
  · obtain ⟨front, line, back, lines_eq, ⟨digits, saying, faulty⟩, sound⟩ :=
      exists_first_faulty some_faulty
    have failed : read contents = .error (faultOf digits) :=
      fails_at_first front line back digits lines_eq sound saying faulty
    refine ⟨iff_of_true ⟨faultOf digits, failed⟩ some_faulty, fails_at_first, ?_⟩
    intro expectations read_eq
    rw [failed] at read_eq
    contradiction
  · have sound : ∀ line ∈ lines, ¬ SaysFaulty line := by simpa using some_faulty
    have read_eq := read_of_sound cuts sound
    refine ⟨iff_of_false ?_ some_faulty, fails_at_first, ?_⟩
    · rintro ⟨fault, failed⟩
      rw [read_eq] at failed
      contradiction
    · intro expectations other_eq
      obtain rfl := Except.ok.inj (read_eq.symm.trans other_eq)
      exact ⟨_, collects_withDefaultCode cuts⟩

/-- The text of an error can give an exit code that no line says. -/
example :
    read "// expect error: // expect exit: 7".toList =
      .ok { output := #[], errors := #["// expect exit: 7"], exitCode := 0 } := by
  decide

end Expectations
end LoxTokens
