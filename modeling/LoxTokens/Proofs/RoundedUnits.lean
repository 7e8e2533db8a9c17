import LoxTokens.Proofs.Rounding
import Mathlib.Algebra.Order.Field.Rat
import Mathlib.Algebra.Order.Ring.Abs
import Mathlib.Data.Nat.Cast.Order.Field
import Mathlib.Tactic.Linarith

/-!
# Rounded units

A quotient of units is rounded to the nearest point of the grid at its magnitude, and every number
lies on such a grid.  So no number is nearer than the rounded one, and when another number is as
near, the rounded one is even.  Rounding stays below the limit of finite numbers exactly when the
quotient lies below the middle of the last step before the limit.
-/

namespace LoxTokens
namespace Binary64

/-! ## Grids -/

theorem powerOfTwo_add (left right : Nat) :
    powerOfTwo (left + right) = powerOfTwo left * powerOfTwo right := Nat.pow_add 2 left right

theorem powerOfTwo_succ (exponent : Nat) : powerOfTwo (exponent + 1) = 2 * powerOfTwo exponent :=
  Nat.pow_succ'

theorem powerOfTwo_pos (exponent : Nat) : 0 < powerOfTwo exponent := Nat.two_pow_pos exponent

theorem powerOfTwo_le {left right : Nat} (ordered : left ≤ right) :
    powerOfTwo left ≤ powerOfTwo right := Nat.pow_le_pow_right two_pos ordered

theorem powerOfTwo_lt {left right : Nat} (ordered : left < right) :
    powerOfTwo left < powerOfTwo right := Nat.pow_lt_pow_right Nat.one_lt_two ordered

theorem log2_powerOfTwo (exponent : Nat) : (powerOfTwo exponent).log2 = exponent :=
  Nat.log2_two_pow

theorem lt_powerOfTwo_iff {units : Nat} (nonzero : units ≠ 0) (exponent : Nat) :
    units < powerOfTwo exponent ↔ units.log2 < exponent := (Nat.log2_lt nonzero).symm

theorem spacing_eq (units : Nat) : spacing units = 2 ^ (units.log2 - 52) := rfl

/-- A large magnitude holds as many steps of its grid as there are fractions, or more. -/
theorem fractionCount_mul_spacing_le {units : Nat} (large : 52 ≤ units.log2) :
    fractionCount * spacing units ≤ units := by
  have nonzero : units ≠ 0 := by
    rintro rfl
    simp at large
  calc
    fractionCount * spacing units = 2 ^ units.log2 := by
      rw [spacing_eq, show fractionCount = 2 ^ 52 from rfl, ← Nat.pow_add]
      congr 1
      omega
    _ ≤ units := Nat.log2_self_le nonzero

/-- No magnitude holds twice as many. -/
theorem lt_fractionCount_mul_spacing (units : Nat) :
    units < 2 * fractionCount * spacing units := by
  calc
    units < 2 ^ (units.log2 + 1) := Nat.lt_log2_self
    _ ≤ 2 ^ (53 + (units.log2 - 52)) := Nat.pow_le_pow_right (by decide) (by omega)
    _ = 2 * fractionCount * spacing units := Nat.pow_add 2 53 _

/-- What lies on its own grid also lies on a finer one, or it lies below all of a coarser one. -/
theorem spacing_dvd_or_lt {units : Nat} (onGrid : spacing units ∣ units) (other : Nat) :
    spacing other ∣ units ∨
      units < fractionCount * spacing other ∧ fractionCount * spacing other ≤ other := by
  by_cases finer : other.log2 - 52 ≤ units.log2 - 52
  · exact .inl ((Nat.pow_dvd_pow 2 finer).trans onGrid)
  · have large := @fractionCount_mul_spacing_le other (by omega)
    refine .inr ⟨?_, large⟩
    calc
      units < 2 ^ (units.log2 + 1) := Nat.lt_log2_self
      _ ≤ 2 ^ (52 + (other.log2 - 52)) := Nat.pow_le_pow_right (by decide) (by omega)
      _ = fractionCount * spacing other := Nat.pow_add 2 52 _

/-- A number of steps that fits the fraction and the bit in front of it lies on its own grid. -/
theorem spacing_dvd_mul {count : Nat} (fits : count ≤ 2 * fractionCount) (exponent : Nat) :
    spacing (count * powerOfTwo exponent) ∣ count * powerOfTwo exponent := by
  change spacing (count * 2 ^ exponent) ∣ count * 2 ^ exponent
  rcases fits.lt_or_eq with below | rfl
  · have magnitude : count * 2 ^ exponent < 2 ^ (53 + exponent) := by
      rw [Nat.pow_add]
      exact (Nat.mul_lt_mul_right (Nat.two_pow_pos exponent)).mpr below
    have finer : (count * 2 ^ exponent).log2 - 52 ≤ exponent := by
      by_cases zero : count * 2 ^ exponent = 0
      · simp [zero]
      · have := (Nat.log2_lt zero).mpr magnitude
        omega
    exact (Nat.pow_dvd_pow 2 finer).trans (Nat.dvd_mul_left _ _)
  · have power : 2 * fractionCount * 2 ^ exponent = 2 ^ (53 + exponent) := (Nat.pow_add 2 53 _).symm
    rw [power, spacing_eq, Nat.log2_two_pow]
    exact Nat.pow_dvd_pow 2 (by omega)

/-! ## Halves to even -/

/-- The part of a quotient behind its integer part decides how it is rounded. -/
theorem roundHalfEven_cases (numerator : Nat) {denominator : Nat} (positive : 0 < denominator) :
    ∃ part : ℚ, 0 ≤ part ∧ part < 1 ∧
      (numerator / denominator : ℚ) = (numerator / denominator : Nat) + part ∧
      (roundHalfEven numerator denominator = numerator / denominator ∧
          (part < 1 / 2 ∨ part = 1 / 2 ∧ numerator / denominator % 2 = 0) ∨
        roundHalfEven numerator denominator = numerator / denominator + 1 ∧
          (1 / 2 < part ∨ part = 1 / 2 ∧ numerator / denominator % 2 = 1)) := by
  have scale : (0 : ℚ) < denominator := Nat.cast_pos.mpr positive
  have remainder : (numerator % denominator : Nat) < (denominator : ℚ) :=
    Nat.cast_lt.mpr (Nat.mod_lt numerator positive)
  refine ⟨(numerator % denominator : Nat) / denominator, by positivity,
    (div_lt_one scale).mpr remainder, ?_, ?_⟩
  · rw [div_eq_iff scale.ne', add_mul, div_mul_cancel₀ _ scale.ne']
    exact_mod_cast (Nat.div_add_mod' numerator denominator).symm
  · have below : (numerator % denominator : Nat) / (denominator : ℚ) < 1 / 2 ↔
        2 * (numerator % denominator) < denominator := by
      rw [div_lt_div_iff₀ scale two_pos, one_mul, mul_comm]
      exact_mod_cast Iff.rfl
    have half : (numerator % denominator : Nat) / (denominator : ℚ) = 1 / 2 ↔
        2 * (numerator % denominator) = denominator := by
      rw [div_eq_div_iff scale.ne' two_ne_zero, one_mul, mul_comm]
      exact_mod_cast Iff.rfl
    have above : 1 / 2 < (numerator % denominator : Nat) / (denominator : ℚ) ↔
        denominator < 2 * (numerator % denominator) := by
      rw [div_lt_div_iff₀ two_pos scale, one_mul, mul_comm]
      exact_mod_cast Iff.rfl
    rw [below, half, above, roundHalfEven]
    split <;> omega

/-- No integer is nearer to a quotient than the one to which it is rounded. -/
theorem roundHalfEven_closest (numerator : Nat) {denominator : Nat} (positive : 0 < denominator)
    (other : Nat) :
    |(numerator / denominator : ℚ) - roundHalfEven numerator denominator| ≤
      |(numerator / denominator : ℚ) - other| := by
  obtain ⟨part, nonneg, below, split, rounded⟩ := roundHalfEven_cases numerator positive
  have sides : (other : ℚ) ≤ (numerator / denominator : Nat) ∨
      ((numerator / denominator : Nat) : ℚ) + 1 ≤ other := by
    exact_mod_cast Nat.lt_or_ge (numerator / denominator) other |>.symm
  rw [split, le_abs]
  rcases rounded with ⟨rounded, part_le⟩ | ⟨rounded, le_part⟩
  · have part_le : part ≤ 1 / 2 := part_le.elim le_of_lt fun half => half.1.le
    rw [rounded, add_sub_cancel_left, abs_of_nonneg nonneg]
    rcases sides with before | after
    · exact .inl (by linarith)
    · exact .inr (by linarith)
  · have le_part : 1 / 2 ≤ part := le_part.elim le_of_lt fun half => half.1.ge
    rw [rounded, Nat.cast_add_one, add_sub_add_left_eq_sub, abs_of_neg (by linarith)]
    rcases sides with before | after
    · exact .inl (by linarith)
    · exact .inr (by linarith)

private theorem eq_of_cast_lt {other floor : Nat} (floor_le : (floor : ℚ) ≤ other)
    (lt_ceil : (other : ℚ) < floor + 1) : other = floor := by
  have lt_ceil : other < floor + 1 := by exact_mod_cast lt_ceil
  exact Nat.le_antisymm (Nat.lt_succ_iff.mp lt_ceil) (by exact_mod_cast floor_le)

/-- When another integer is as near, the one to which a quotient is rounded is even. -/
theorem roundHalfEven_even {numerator denominator other : Nat} (positive : 0 < denominator)
    (different : other ≠ roundHalfEven numerator denominator)
    (tie : |(numerator / denominator : ℚ) - other| =
      |(numerator / denominator : ℚ) - roundHalfEven numerator denominator|) :
    roundHalfEven numerator denominator % 2 = 0 := by
  obtain ⟨part, nonneg, below, split, rounded⟩ := roundHalfEven_cases numerator positive
  rcases abs_eq_abs.mp tie with same | mirrored
  · exact (different (by exact_mod_cast sub_right_inj.mp same)).elim
  · -- The quotient is halfway between the two integers, so that the part behind it is a half.
    have middle : (other : ℚ) + roundHalfEven numerator denominator =
        2 * (numerator / denominator : Nat) + 2 * part := by linarith
    rcases rounded with ⟨rounded, small | half⟩ | ⟨rounded, large | half⟩
    · rw [rounded] at middle different
      exact (different (eq_of_cast_lt (by linarith) (by linarith))).elim
    · rw [rounded]
      exact half.2
    · rw [rounded, Nat.cast_add_one] at middle
      have floor_eq := @eq_of_cast_lt other (numerator / denominator) (by linarith) (by linarith)
      rw [floor_eq] at middle
      linarith
    · omega

theorem roundHalfEven_le (numerator denominator : Nat) :
    roundHalfEven numerator denominator ≤ numerator / denominator + 1 := by
  simp only [roundHalfEven]
  split <;> omega

/-! ## Rounded quotients of units -/

/-- The number of units to which a quotient of units is rounded, however large it is. -/
def roundedUnits (numerator denominator : Nat) : Nat :=
  roundHalfEven numerator (denominator * spacing (numerator / denominator)) *
    spacing (numerator / denominator)

/-- A quotient is rounded to at most so many steps that they lie on a grid of their own. -/
theorem steps_le (numerator denominator : Nat) :
    roundHalfEven numerator (denominator * spacing (numerator / denominator)) ≤
      2 * fractionCount := by
  have below : numerator / denominator / spacing (numerator / denominator) < 2 * fractionCount :=
    Nat.div_lt_of_lt_mul (Nat.mul_comm _ _ ▸ lt_fractionCount_mul_spacing _)
  have rounded := roundHalfEven_le numerator (denominator * spacing (numerator / denominator))
  rw [← Nat.div_div_eq_div_mul] at rounded
  omega

theorem spacing_dvd_roundedUnits (numerator denominator : Nat) :
    spacing (roundedUnits numerator denominator) ∣ roundedUnits numerator denominator :=
  spacing_dvd_mul (steps_le numerator denominator) _

section roundedUnits

variable {numerator denominator : Nat}

/-- Distances between multiples of a step are counted in steps. -/
theorem abs_sub_steps {step : Nat} (positive : 0 < step) (count : Nat) :
    |(numerator / denominator : ℚ) - (count * step : Nat)| =
      |(numerator / (denominator * step : Nat) : ℚ) - count| * step := by
  have scale : (0 : ℚ) < step := Nat.cast_pos.mpr positive
  have difference : (numerator / denominator : ℚ) - (count * step : Nat) =
      (numerator / (denominator * step : Nat) - count) * step := by
    push_cast
    rw [← div_div, sub_mul, div_mul_cancel₀ _ scale.ne']
  rw [difference, abs_mul, abs_of_pos scale]

/-- A point below the coarsest grid around a quotient is farther away than the rounded one. -/
theorem roundedUnits_closer (positive : 0 < denominator) {units : Nat}
    (below : units < fractionCount * spacing (numerator / denominator))
    (reached : fractionCount * spacing (numerator / denominator) ≤ numerator / denominator) :
    |(numerator / denominator : ℚ) - roundedUnits numerator denominator| <
      |(numerator / denominator : ℚ) - units| := by
  have step := spacing_pos (numerator / denominator)
  have scaled := Nat.mul_pos positive step
  have floor_le : ((numerator / denominator : Nat) : ℚ) ≤ numerator / denominator := Nat.cast_div_le
  have reached_le : ((fractionCount * spacing (numerator / denominator) : Nat) : ℚ) ≤
      numerator / denominator := (Nat.cast_le.mpr reached).trans floor_le
  have units_lt : (units : ℚ) < (fractionCount * spacing (numerator / denominator) : Nat) :=
    Nat.cast_lt.mpr below
  calc
    |(numerator / denominator : ℚ) - roundedUnits numerator denominator| ≤
        |(numerator / denominator : ℚ) -
          (fractionCount * spacing (numerator / denominator) : Nat)| := by
      rw [roundedUnits, abs_sub_steps step, abs_sub_steps step]
      exact mul_le_mul_of_nonneg_right
        (roundHalfEven_closest numerator scaled _) (Nat.cast_nonneg _)
    _ < |(numerator / denominator : ℚ) - units| := by
      rw [abs_of_nonneg (by linarith), abs_of_nonneg (by linarith)]
      linarith

/-- No point that lies on its own grid is nearer to a quotient than the rounded one. -/
theorem roundedUnits_closest (positive : 0 < denominator) {units : Nat}
    (onGrid : spacing units ∣ units) :
    |(numerator / denominator : ℚ) - roundedUnits numerator denominator| ≤
      |(numerator / denominator : ℚ) - units| := by
  have step := spacing_pos (numerator / denominator)
  rcases spacing_dvd_or_lt onGrid (numerator / denominator) with ⟨count, rfl⟩ | ⟨below, reached⟩
  · rw [Nat.mul_comm, roundedUnits, abs_sub_steps step, abs_sub_steps step]
    exact mul_le_mul_of_nonneg_right
      (roundHalfEven_closest numerator (Nat.mul_pos positive step) _) (Nat.cast_nonneg _)
  · exact (roundedUnits_closer positive below reached).le

/-- When another point that lies on its own grid is as near, the number of steps is even. -/
theorem steps_even (positive : 0 < denominator) {units : Nat} (onGrid : spacing units ∣ units)
    (different : units ≠ roundedUnits numerator denominator)
    (tie : |(numerator / denominator : ℚ) - units| =
      |(numerator / denominator : ℚ) - roundedUnits numerator denominator|) :
    roundHalfEven numerator (denominator * spacing (numerator / denominator)) % 2 = 0 := by
  have step := spacing_pos (numerator / denominator)
  rcases spacing_dvd_or_lt onGrid (numerator / denominator) with ⟨count, rfl⟩ | ⟨below, reached⟩
  · rw [Nat.mul_comm] at tie different
    rw [roundedUnits, abs_sub_steps step, abs_sub_steps step] at tie
    refine roundHalfEven_even (Nat.mul_pos positive step) ?_
      (mul_right_cancel₀ (Nat.cast_ne_zero.mpr step.ne') tie)
    rintro rfl
    exact different rfl
  · exact absurd tie (roundedUnits_closer positive below reached).ne'

end roundedUnits

/-! ## Numbers of units -/

/-- Number of units of the least power of two that is too large for a finite number. -/
def unitsLimit : Nat := powerOfTwo 2098

theorem ofUnits_small {units : Nat} (small : units < fractionCount) :
    ofUnits units = ofFields false 0 units := if_pos small

theorem ne_zero_of_large {units : Nat} (large : ¬ units < fractionCount) : units ≠ 0 := by
  rintro rfl
  exact large (by decide)

theorem ofUnits_large {units : Nat} (large : ¬ units < fractionCount) (fits : units < unitsLimit) :
    ofUnits units =
      ofFields false (units.log2 - 51) (units / spacing units - fractionCount) ∧
        52 ≤ units.log2 ∧ units.log2 < 2098 := by
  have nonzero := ne_zero_of_large large
  have magnitude := (lt_powerOfTwo_iff nonzero 2098).mp fits
  have reached : 52 ≤ units.log2 := (Nat.le_log2 nonzero).mpr (Nat.not_lt.mp large)
  rw [ofUnits, if_neg large, if_pos magnitude]
  exact ⟨rfl, reached, magnitude⟩

theorem isFinite_ofUnits {units : Nat} : (ofUnits units).isFinite ↔ units < unitsLimit := by
  by_cases small : units < fractionCount
  · rw [ofUnits_small small]
    exact ⟨fun _ => small.trans_le (powerOfTwo_le (by decide : 52 ≤ 2098)), fun _ => rfl⟩
  · constructor
    · intro finite
      by_contra large
      rw [unitsLimit, lt_powerOfTwo_iff (ne_zero_of_large small)] at large
      rw [ofUnits, if_neg small, if_neg large] at finite
      contradiction
    · intro fits
      obtain ⟨number_eq, reached, magnitude⟩ := ofUnits_large small fits
      rw [number_eq]
      have exponent_lt : units.log2 - 51 < 2047 := by omega
      exact decide_eq_true ((Nat.mod_le _ _).trans_lt exponent_lt)

/-- A number of units that lies on its own grid is not changed when it is made a number. -/
theorem units_ofUnits {units : Nat} (onGrid : spacing units ∣ units) (fits : units < unitsLimit) :
    (ofUnits units).units = units := by
  by_cases small : units < fractionCount
  · rw [ofUnits_small small, units_subnormal rfl]
    exact Nat.mod_eq_of_lt small
  · obtain ⟨number_eq, reached, magnitude⟩ := ofUnits_large small fits
    have step := spacing_pos units
    have above : fractionCount ≤ units / spacing units :=
      (Nat.le_div_iff_mul_le step).mpr (fractionCount_mul_spacing_le reached)
    have below : units / spacing units < 2 * fractionCount :=
      Nat.div_lt_of_lt_mul (Nat.mul_comm _ _ ▸ lt_fractionCount_mul_spacing units)
    have exponent_lt : units.log2 - 51 < 2048 := by omega
    have exponent_eq : (units.log2 - 51) % exponentCount = units.log2 - 51 :=
      Nat.mod_eq_of_lt exponent_lt
    have fraction_eq : (units / spacing units - fractionCount) % fractionCount =
        units / spacing units - fractionCount := Nat.mod_eq_of_lt (by omega)
    have step_eq : powerOfTwo (units.log2 - 51 - 1) = spacing units := rfl
    have normal : units.log2 - 51 ≠ 0 := by omega
    simp only [number_eq, Binary64.units, ofFields, exponent_eq, fraction_eq, if_neg normal,
      step_eq]
    rw [Nat.add_sub_cancel' above, Nat.div_mul_cancel onGrid]

/-- An even number of steps makes an even number, if there are not too many of them. -/
theorem fraction_even {number : Binary64} {count exponent : Nat}
    (units_eq : number.units = count * 2 ^ exponent) (fits : count ≤ 2 * fractionCount)
    (even : count % 2 = 0) : number.fraction.val % 2 = 0 := by
  have even_mul : ∀ factor, count * factor % 2 = 0 := by
    intro factor
    rw [Nat.mul_mod, even, Nat.zero_mul, Nat.zero_mod]
  by_cases normal : number.exponent.val = 0
  · rw [← units_subnormal normal, units_eq, even_mul]
  · rw [units, if_neg normal] at units_eq
    have fraction_lt := number.fraction.isLt
    have whole_even : fractionCount % 2 = 0 := rfl
    generalize number.exponent.val - 1 = place at units_eq
    rcases Nat.le_total place exponent with finer | coarser
    · obtain ⟨more, rfl⟩ := Nat.exists_eq_add_of_le finer
      have steps_eq : fractionCount + number.fraction.val = count * 2 ^ more := by
        apply Nat.mul_right_cancel (Nat.two_pow_pos place)
        rw [Nat.mul_assoc, ← Nat.pow_add, Nat.add_comm more, ← units_eq]
        rfl
      have := even_mul (2 ^ more)
      omega
    · obtain ⟨more, rfl⟩ := Nat.exists_eq_add_of_le coarser
      have steps_eq : count = (fractionCount + number.fraction.val) * 2 ^ more := by
        apply Nat.mul_right_cancel (Nat.two_pow_pos exponent)
        rw [Nat.mul_assoc, ← Nat.pow_add, Nat.add_comm more, ← units_eq]
        rfl
      cases more with
      | zero => omega
      | succ more =>
          -- So many steps are twice as many as there are fractions, and the fraction is zero.
          have twice : (fractionCount + number.fraction.val) * 2 ≤ count := by
            rw [steps_eq, Nat.pow_succ']
            exact Nat.mul_le_mul_left _ (Nat.le_mul_of_pos_right 2 (Nat.two_pow_pos more))
          omega

/-! ## The greatest number -/

/-- The greatest finite number. -/
def greatest : Binary64 := ofFields false 2046 (fractionCount - 1)

theorem units_ofFields {exponent fraction : Nat} (exponent_lt : exponent + 1 < exponentCount)
    (fraction_lt : fraction < fractionCount) :
    (ofFields false (exponent + 1) fraction).units =
      (fractionCount + fraction) * powerOfTwo exponent := by
  simp only [units, ofFields, Nat.mod_eq_of_lt exponent_lt, Nat.mod_eq_of_lt fraction_lt,
    if_neg (Nat.succ_ne_zero exponent), Nat.add_sub_cancel]

theorem units_greatest :
    greatest.units = (fractionCount + (fractionCount - 1)) * powerOfTwo 2045 :=
  units_ofFields (by decide) (by decide)

theorem unitsLimit_eq : unitsLimit = 2 * fractionCount * powerOfTwo 2045 := by
  have whole : powerOfTwo 53 = 2 * fractionCount := rfl
  rw [← whole, ← powerOfTwo_add]
  rfl

/-- The last step below the limit starts from the greatest number. -/
theorem units_greatest_add : greatest.units + 2 * powerOfTwo 2044 = unitsLimit := by
  have step_eq : powerOfTwo 2045 = 2 * powerOfTwo 2044 := powerOfTwo_succ 2044
  have steps_eq : (fractionCount + (fractionCount - 1)).succ = 2 * fractionCount := rfl
  rw [units_greatest, unitsLimit_eq, ← step_eq, ← Nat.succ_mul, steps_eq]

theorem units_le_greatest {number : Binary64} (finite : number.isFinite) :
    number.units ≤ greatest.units := by
  have exponent_lt : number.exponent.val < 2047 := of_decide_eq_true finite
  have fraction_le : number.fraction.val ≤ fractionCount - 1 :=
    Nat.le_sub_one_of_lt number.fraction.isLt
  rw [units_greatest, units]
  split
  · calc
      number.fraction.val ≤ fractionCount + (fractionCount - 1) :=
        fraction_le.trans (Nat.le_add_left _ _)
      _ ≤ (fractionCount + (fractionCount - 1)) * powerOfTwo 2045 :=
        Nat.le_mul_of_pos_right _ (powerOfTwo_pos 2045)
  · exact Nat.mul_le_mul (Nat.add_le_add_left fraction_le _) (powerOfTwo_le (by omega))

section overflow

variable {numerator denominator : Nat}

/-- A quotient is rounded below the limit if it is below the middle of the last step before it. -/
theorem roundedUnits_lt_iff (positive : 0 < denominator) :
    roundedUnits numerator denominator < unitsLimit ↔
      (numerator / denominator : ℚ) < unitsLimit - powerOfTwo 2044 := by
  have limit_grid : spacing unitsLimit ∣ unitsLimit :=
    unitsLimit_eq ▸ spacing_dvd_mul le_rfl 2045
  have last_step : (greatest.units : ℚ) + 2 * powerOfTwo 2044 = unitsLimit := by
    exact_mod_cast units_greatest_add
  have half_pos : (0 : ℚ) < powerOfTwo 2044 := Nat.cast_pos.mpr (powerOfTwo_pos 2044)
  constructor
  · intro fits
    have rounded_le := units_le_greatest (isFinite_ofUnits.mpr fits)
    rw [units_ofUnits (spacing_dvd_roundedUnits numerator denominator) fits] at rounded_le
    have rounded_le : (roundedUnits numerator denominator : ℚ) ≤ greatest.units := by
      exact_mod_cast rounded_le
    have closest := @roundedUnits_closest numerator denominator positive _ limit_grid
    by_contra reached
    rw [not_lt] at reached
    rw [abs_of_nonneg (by linarith), le_abs] at closest
    rcases closest with beyond | before
    · linarith
    · -- The quotient is in the middle of the last step, and the greatest number is odd.
      have rounded_eq : (roundedUnits numerator denominator : ℚ) = greatest.units := by linarith
      have rounded_eq : roundedUnits numerator denominator = greatest.units := by
        exact_mod_cast rounded_eq
      have even := @steps_even numerator denominator positive _ limit_grid fits.ne' (by
        rw [abs_of_neg (by linarith), abs_of_nonneg (by linarith)]
        linarith)
      have fraction := fraction_even rounded_eq.symm (steps_le numerator denominator) even
      exact absurd fraction (by decide)
  · intro below
    have closest :=
      @roundedUnits_closest numerator denominator positive _ (spacing_dvd_units greatest)
    by_contra reached
    have reached : (unitsLimit : ℚ) ≤ roundedUnits numerator denominator := by
      exact_mod_cast Nat.not_lt.mp reached
    rw [abs_of_neg (by linarith), le_abs] at closest
    rcases closest with above | under <;> linarith

end overflow

end Binary64
end LoxTokens
