import LoxTokens.Decimal
import LoxTokens.Proofs.RoundedUnits
import Mathlib.Algebra.Order.Field.Power

/-!
# Nearest numbers

A finite number is nearest to a value when none is nearer and, of two that are equally near, it is
the even one.  A value in range has one such number of each sign, and what lies between two values
with the same nearest number has it as well.  Reading a decimal gives the nearest number, as long as
its value stays below the middle between the greatest number and `2 ^ 1024`.
-/

namespace LoxTokens
namespace Binary64

/-! ## Values -/

/-- The fraction that a finite number stands for. -/
def value (number : Binary64) : ℚ :=
  (if number.negative then -1 else 1) *
    if number.exponent.val = 0 then (number.fraction.val : ℚ) * 2 ^ (-1074 : ℤ)
    else (2 ^ 52 + (number.fraction.val : ℚ)) * 2 ^ ((number.exponent.val : ℤ) - 1075)

/-- The number of the same magnitude with the other sign. -/
def opposite (number : Binary64) : Binary64 := { number with negative := !number.negative }

theorem cast_powerOfTwo (exponent : Nat) : (powerOfTwo exponent : ℚ) = 2 ^ exponent :=
  Nat.cast_pow 2 exponent

theorem unitsPerOne_pos : (0 : ℚ) < unitsPerOne := Nat.cast_pos.mpr (powerOfTwo_pos 1074)

/-- The value of a number is that of its units. -/
theorem value_eq (number : Binary64) :
    number.value = (if number.negative then -1 else 1) * (number.units / unitsPerOne) := by
  have unit_eq : (2 : ℚ) ^ (-1074 : ℤ) = (unitsPerOne : ℚ)⁻¹ := by
    rw [zpow_neg, zpow_ofNat, unitsPerOne, cast_powerOfTwo]
  rw [value, units, div_eq_mul_inv, ← unit_eq]
  by_cases subnormal : number.exponent.val = 0
  · rw [if_pos subnormal, if_pos subnormal]
  · have exponent_eq :
        (number.exponent.val : ℤ) - 1075 = (number.exponent.val - 1 : Nat) + -1074 := by
      omega
    have whole_eq : (fractionCount : ℚ) = 2 ^ 52 := Nat.cast_pow 2 52
    rw [if_neg subnormal, if_neg subnormal, exponent_eq, zpow_add₀ two_ne_zero, zpow_natCast,
      Nat.cast_mul, Nat.cast_add, whole_eq, cast_powerOfTwo, mul_assoc]

theorem value_of_nonnegative {number : Binary64} (positive : number.negative = false) :
    number.value = number.units / unitsPerOne := by
  rw [value_eq, positive]
  exact one_mul _

theorem abs_value (number : Binary64) : |number.value| = number.units / unitsPerOne := by
  have nonneg : (0 : ℚ) ≤ number.units / unitsPerOne :=
    div_nonneg (Nat.cast_nonneg _) unitsPerOne_pos.le
  rw [value_eq]
  split
  · rw [neg_one_mul, abs_neg, abs_of_nonneg nonneg]
  · rw [one_mul, abs_of_nonneg nonneg]

theorem value_opposite (number : Binary64) : number.opposite.value = -number.value := by
  have units_eq : number.opposite.units = number.units := rfl
  rw [value_eq, value_eq, units_eq, opposite]
  generalize (number.units / unitsPerOne : ℚ) = magnitude
  cases number.negative <;> simp

theorem opposite_opposite (number : Binary64) : number.opposite.opposite = number := by
  simp [opposite]

/-! ## Nearest numbers -/

/-- The middle between the greatest number and `2 ^ 1024`, from which on values are too large. -/
def overflowThreshold : ℚ := 2 ^ 1024 - 2 ^ 970

/-- A finite number is nearest to a value in range, with ties to even. -/
structure IsNearest (value : ℚ) (number : Binary64) : Prop where
  /-- The value is not too large for a finite number. -/
  inRange : |value| < overflowThreshold
  /-- The number is finite. -/
  finite : number.isFinite
  /-- No finite number is nearer. -/
  closest : ∀ other : Binary64, other.isFinite → |value - number.value| ≤ |value - other.value|
  /-- If another one is as near, the last fraction bit of the number is not set. -/
  even : ∀ other : Binary64, other.isFinite → other.value ≠ number.value →
    |value - other.value| = |value - number.value| → number.fraction.val % 2 = 0

theorem overflowThreshold_eq :
    overflowThreshold = (unitsLimit - powerOfTwo 2044 : ℚ) / unitsPerOne := by
  have limit_eq : unitsLimit = powerOfTwo 1024 * unitsPerOne := by
    rw [unitsPerOne, ← powerOfTwo_add]
    rfl
  have half_eq : powerOfTwo 2044 = powerOfTwo 970 * unitsPerOne := by
    rw [unitsPerOne, ← powerOfTwo_add]
  rw [limit_eq, half_eq, Nat.cast_mul, Nat.cast_mul, ← sub_mul,
    mul_div_cancel_right₀ _ unitsPerOne_pos.ne', cast_powerOfTwo, cast_powerOfTwo,
    overflowThreshold]

/-- Of two numbers, the one on the side of a value is nearer to it. -/
theorem closer_iff (value near far : ℚ) :
    |value - near| ≤ |value - far| ↔ 0 ≤ (near - far) * (2 * value - near - far) := by
  rw [← sq_le_sq, ← sub_nonneg]
  ring_nf

/-- Moving a value away from the farther one of two numbers keeps the other one nearer. -/
theorem closer_of_moved {value moved near far : ℚ} (closer : |value - near| ≤ |value - far|)
    (side : 0 ≤ (near - far) * (moved - value)) : |moved - near| ≤ |moved - far| := by
  rw [closer_iff] at closer ⊢
  linarith

/-! ## Neighbours -/

/-- Between representable values the grid gets no finer. -/
theorem spacing_units (number : Binary64) :
    spacing number.units = powerOfTwo (number.exponent.val - 1) := by
  by_cases subnormal : number.exponent.val = 0
  · rw [spacing_of_lt (units_subnormal subnormal ▸ number.fraction.isLt), subnormal]
    rfl
  · rw [spacing, log2_units subnormal]
    congr 1

/-- Between two numbers that are both even there is another one. -/
theorem exists_between {left right : Binary64} (left_finite : left.isFinite)
    (right_finite : right.isFinite) (left_even : left.fraction.val % 2 = 0)
    (right_even : right.fraction.val % 2 = 0) (ordered : left.units < right.units) :
    ∃ middle : Binary64, middle.isFinite ∧ middle.negative = false ∧
      left.units < middle.units ∧ middle.units < right.units := by
  have fraction_lt : left.fraction.val < 4503599627370496 := left.fraction.isLt
  let middle : Binary64 :=
    { negative := false
      exponent := left.exponent
      fraction := ⟨left.fraction.val + 1, by omega⟩ }
  have middle_units : middle.units = left.units + spacing left.units := by
    rw [spacing_units, units, units]
    split
    · rename_i subnormal
      rw [subnormal]
      rfl
    · rw [← Nat.add_assoc, Nat.add_mul, Nat.one_mul]
  have step := spacing_pos left.units
  -- The greater number is on the grid of the smaller one, so that it is one step away or more.
  have onGrid : spacing left.units ∣ right.units := by
    rcases spacing_dvd_or_lt (spacing_dvd_units right) left.units with onGrid | ⟨below, reached⟩
    · exact onGrid
    · omega
  have gap := Nat.le_of_dvd (Nat.sub_pos_of_lt ordered)
    (Nat.dvd_sub onGrid (spacing_dvd_units left))
  refine ⟨middle, left_finite, rfl, by omega, lt_of_le_of_ne (by omega) ?_⟩
  intro same
  have middle_eq := @ofUnits_units middle left_finite rfl
  have right_eq := @ofUnits_units right.magnitude right_finite rfl
  have right_units : right.magnitude.units = right.units := rfl
  rw [right_units, ← same, middle_eq] at right_eq
  have fraction_eq : left.fraction.val + 1 = right.fraction.val :=
    congrArg (fun number => number.fraction.val) right_eq
  omega

namespace IsNearest

variable {value : ℚ} {number : Binary64}

theorem opposite (nearest : IsNearest value number) : IsNearest (-value) number.opposite := by
  have distance : ∀ other : Binary64, |-value - other.value| = |value - other.opposite.value| := by
    intro other
    rw [value_opposite, ← abs_neg]
    ring_nf
  refine ⟨by rw [abs_neg]; exact nearest.inRange, nearest.finite, ?_, ?_⟩
  · intro other finite
    rw [distance, distance, opposite_opposite]
    exact nearest.closest other.opposite finite
  · intro other finite different tie
    rw [distance, distance, opposite_opposite] at tie
    refine nearest.even other.opposite finite ?_ tie
    intro same
    rw [value_opposite] at same different
    exact different (neg_eq_iff_eq_neg.mp same)

/-- What lies between two values that have the same nearest number has it as well. -/
theorem between {low high : ℚ} (below : IsNearest low number) (above : IsNearest high number)
    (low_le : low ≤ value) (le_high : value ≤ high) : IsNearest value number where
  inRange := by
    have low_range := abs_lt.mp below.inRange
    have high_range := abs_lt.mp above.inRange
    exact abs_lt.mpr ⟨by linarith, by linarith⟩
  finite := below.finite
  closest := by
    intro other finite
    rcases le_total other.value number.value with before | after
    · exact closer_of_moved (below.closest other finite)
        (mul_nonneg (sub_nonneg.mpr before) (sub_nonneg.mpr low_le))
    · exact closer_of_moved (above.closest other finite)
        (mul_nonneg_of_nonpos_of_nonpos (sub_nonpos.mpr after) (sub_nonpos.mpr le_high))
  even := by
    intro other finite different tie
    rcases le_total other.value number.value with before | after
    · -- A tie remains one when the value is moved down, because no other number gets nearer.
      have closer := closer_of_moved tie.le
        (mul_nonneg_of_nonpos_of_nonpos (sub_nonpos.mpr before) (sub_nonpos.mpr low_le))
      exact below.even other finite different (le_antisymm closer (below.closest other finite))
    · have closer := closer_of_moved tie.le
        (mul_nonneg (sub_nonneg.mpr after) (sub_nonneg.mpr le_high))
      exact above.even other finite different (le_antisymm closer (above.closest other finite))

theorem units_le {other : Binary64} (nearest : IsNearest value number)
    (otherNearest : IsNearest value other) (positive : number.negative = false)
    (otherPositive : other.negative = false) : other.units ≤ number.units := by
  by_contra ordered
  rw [Nat.not_le] at ordered
  have value_lt {left right : Binary64} (left_positive : left.negative = false)
      (right_positive : right.negative = false) (lt : left.units < right.units) :
      left.value < right.value := by
    rw [value_of_nonnegative left_positive, value_of_nonnegative right_positive]
    exact div_lt_div_of_pos_right (Nat.cast_lt.mpr lt) unitsPerOne_pos
  have different := value_lt positive otherPositive ordered
  have tie := le_antisymm (nearest.closest other otherNearest.finite)
    (otherNearest.closest number nearest.finite)
  obtain ⟨middle, finite, middle_positive, after, before⟩ :=
    exists_between nearest.finite otherNearest.finite
      (nearest.even other otherNearest.finite different.ne' tie.symm)
      (otherNearest.even number nearest.finite different.ne tie) ordered
  have after := value_lt positive middle_positive after
  have before := value_lt middle_positive otherPositive before
  have closest := (closer_iff _ _ _).mp (nearest.closest middle finite)
  rcases abs_eq_abs.mp tie with same | mirrored
  · linarith
  · -- The value is in the middle, so that a number between the two is nearer than both.
    have farther := mul_pos (sub_pos.mpr after) (sub_pos.mpr before)
    have twice : 2 * value = number.value + other.value := by linarith
    rw [twice] at closest
    linarith

/-- A value has one nearest number of each sign. -/
theorem unique {other : Binary64} (nearest : IsNearest value number)
    (otherNearest : IsNearest value other) (positive : number.negative = false)
    (otherPositive : other.negative = false) : number = other := by
  have units_eq := le_antisymm (otherNearest.units_le nearest otherPositive positive)
    (nearest.units_le otherNearest positive otherPositive)
  rw [← ofUnits_units nearest.finite positive, units_eq,
    ofUnits_units otherNearest.finite otherPositive]

end IsNearest

/-- A finite number is nearest to its own value. -/
theorem isNearest_value {number : Binary64} (finite : number.isFinite) :
    IsNearest number.value number where
  inRange := by
    have last_step : (greatest.units : ℚ) + 2 * powerOfTwo 2044 = unitsLimit := by
      exact_mod_cast units_greatest_add
    have half_pos : (0 : ℚ) < powerOfTwo 2044 := Nat.cast_pos.mpr (powerOfTwo_pos 2044)
    have units_le : (number.units : ℚ) ≤ greatest.units :=
      Nat.cast_le.mpr (units_le_greatest finite)
    rw [abs_value, overflowThreshold_eq]
    exact div_lt_div_of_pos_right (by linarith) unitsPerOne_pos
  finite := finite
  closest := by
    intro other _
    rw [sub_self, abs_zero]
    exact abs_nonneg _
  even := by
    intro other _ different tie
    rw [sub_self, abs_zero, abs_eq_zero, sub_eq_zero] at tie
    exact (different tie.symm).elim

/-! ## Rounding -/

section nearest

variable {numerator denominator : Nat}

theorem abs_sub_units (quotient : ℚ) (units : Nat) :
    |quotient / unitsPerOne - units / unitsPerOne| = |quotient - units| / unitsPerOne := by
  rw [← sub_div, abs_div, abs_of_pos unitsPerOne_pos]

/-- A number of the same sign as a value is no farther from it than one of the other sign. -/
theorem abs_sub_magnitude_le {value : ℚ} (nonneg : 0 ≤ value) (number : Binary64) :
    |value - number.units / unitsPerOne| ≤ |value - number.value| := by
  have nearer := abs_abs_sub_abs_le_abs_sub value number.value
  rwa [abs_of_nonneg nonneg, abs_value] at nearer

/-- Two opposite numbers are as near to a value only if both are zero. -/
theorem value_eq_of_tie {value : ℚ} {units : Nat} {other : Binary64} (nonneg : 0 ≤ value)
    (zero_farther : |value - units / unitsPerOne| ≤ value) (same : other.units = units)
    (tie : |value - other.value| = |value - units / unitsPerOne|) :
    other.value = units / unitsPerOne := by
  have units_nonneg : (0 : ℚ) ≤ units / unitsPerOne :=
    div_nonneg (Nat.cast_nonneg _) unitsPerOne_pos.le
  have other_eq := eq_or_eq_neg_of_abs_eq (abs_value other)
  rw [same] at other_eq
  rcases other_eq with other_eq | other_eq
  · exact other_eq
  · rw [other_eq, sub_neg_eq_add, abs_of_nonneg (add_nonneg nonneg units_nonneg)] at tie
    have units_zero := le_antisymm (by linarith) units_nonneg
    rw [other_eq, units_zero, neg_zero]

/-- Below the threshold, rounding takes a quotient to the nearest number. -/
theorem isNearest_nearest (positive : 0 < denominator)
    (below : (numerator / denominator : ℚ) < unitsLimit - powerOfTwo 2044) :
    IsNearest (numerator / denominator / unitsPerOne) (nearest numerator denominator) := by
  have fits := (roundedUnits_lt_iff positive).mpr below
  have onGrid := spacing_dvd_roundedUnits numerator denominator
  have units_eq : (nearest numerator denominator).units = roundedUnits numerator denominator :=
    units_ofUnits onGrid fits
  have value_eq : (nearest numerator denominator).value =
      roundedUnits numerator denominator / unitsPerOne := by
    rw [value_of_nonnegative (nearest_nonnegative numerator denominator), units_eq]
  have quotient_nonneg : (0 : ℚ) ≤ numerator / denominator :=
    div_nonneg (Nat.cast_nonneg _) (Nat.cast_nonneg _)
  have nonneg := div_nonneg quotient_nonneg unitsPerOne_pos.le
  have closest (units : Nat) (grid : spacing units ∣ units) :
      |(numerator / denominator / unitsPerOne : ℚ) -
          roundedUnits numerator denominator / unitsPerOne| ≤
        |(numerator / denominator / unitsPerOne : ℚ) - units / unitsPerOne| := by
    rw [abs_sub_units, abs_sub_units]
    exact div_le_div_of_nonneg_right (roundedUnits_closest positive grid) unitsPerOne_pos.le
  constructor
  case inRange =>
    rw [abs_of_nonneg nonneg, overflowThreshold_eq]
    exact div_lt_div_of_pos_right below unitsPerOne_pos
  case finite => exact isFinite_ofUnits.mpr fits
  case closest =>
    intro other _
    rw [value_eq]
    exact (closest _ (spacing_dvd_units other)).trans (abs_sub_magnitude_le nonneg other)
  case even =>
    intro other _ different tie
    rw [value_eq] at different tie
    by_cases same : other.units = roundedUnits numerator denominator
    · have zero_farther := closest 0 (spacing_dvd_mul (Nat.zero_le _) 0)
      rw [Nat.cast_zero, zero_div, sub_zero, abs_of_nonneg nonneg] at zero_farther
      exact (different (value_eq_of_tie nonneg zero_farther same tie)).elim
    · have tie_units := le_antisymm (tie ▸ abs_sub_magnitude_le nonneg other)
        (closest _ (spacing_dvd_units other))
      rw [abs_sub_units, abs_sub_units, div_left_inj' unitsPerOne_pos.ne'] at tie_units
      have even := steps_even positive (spacing_dvd_units other) same tie_units
      exact fraction_even units_eq (steps_le numerator denominator) even

end nearest

end Binary64

/-! ## Underflow -/

namespace Binary64

/-- Positive zero. -/
def zero : Binary64 := ofFields false 0 0

/-- Half the distance between zero and the smallest positive number. -/
theorem halfUnit_eq : (2 : ℚ) ^ (-1075 : ℤ) = 1 / unitsPerOne / 2 := by
  have exponent_eq : (-1075 : ℤ) = -1074 + -1 := rfl
  rw [exponent_eq, zpow_add₀ two_ne_zero, zpow_neg, zpow_ofNat, zpow_neg_one, unitsPerOne,
    cast_powerOfTwo, one_div, div_eq_mul_inv]

theorem value_zero : zero.value = 0 := by
  rw [value_of_nonnegative rfl, units_subnormal rfl]
  exact zero_div _

/-- The values that have zero as the nearest number go up to half of the smallest one. -/
theorem IsNearest.eq_zero_iff {value : ℚ} {number : Binary64} (nearest : IsNearest value number)
    (positive : number.negative = false) (nonneg : 0 ≤ value) :
    number = zero ↔ value ≤ 2 ^ (-1075 : ℤ) := by
  have unit_pos : (0 : ℚ) < 1 / unitsPerOne := one_div_pos.mpr unitsPerOne_pos
  rw [halfUnit_eq]
  constructor
  · rintro rfl
    have smallest : (ofFields false 0 1).value = 1 / unitsPerOne := by
      rw [value_of_nonnegative rfl, units_subnormal rfl]
      exact congrArg (· / (unitsPerOne : ℚ)) Nat.cast_one
    have closest := (closer_iff _ _ _).mp (nearest.closest (ofFields false 0 1) rfl)
    rw [smallest, value_zero, zero_sub, sub_zero, neg_mul, neg_nonneg] at closest
    have := (mul_nonpos_iff_pos_imp_nonpos.mp closest).1 unit_pos
    linarith
  · intro small
    refine nearest.unique ?_ positive rfl
    refine ⟨nearest.inRange, rfl, ?_, fun _ _ _ _ => rfl⟩
    intro other finite
    have magnitude := abs_sub_magnitude_le nonneg other
    refine le_trans ?_ magnitude
    rcases Nat.eq_zero_or_pos other.units with none | some
    · rw [none, Nat.cast_zero, zero_div, value_zero]
    · have unit_le : 1 / (unitsPerOne : ℚ) ≤ other.units / unitsPerOne :=
        div_le_div_of_nonneg_right (Nat.one_le_cast.mpr some) unitsPerOne_pos.le
      rw [value_zero, sub_zero, abs_of_nonneg nonneg, abs_of_nonpos (by linarith)]
      linarith

end Binary64

/-! ## Values of decimals -/

namespace Decimal

open Binary64

/-- The fraction that a decimal stands for. -/
def value (decimal : Decimal) : ℚ := decimal.digits / 10 ^ decimal.places

variable {decimal : Decimal}

theorem value_nonneg : 0 ≤ decimal.value :=
  div_nonneg (Nat.cast_nonneg _) (pow_nonneg (by decide) _)

theorem powerOfTen_pos (exponent : Nat) : 0 < powerOfTen exponent := Nat.pow_pos (by decide)

/-- The value of a decimal, as the quotient of units that is rounded when the decimal is read. -/
theorem value_eq_units :
    decimal.value =
      (decimal.digits * unitsPerOne : Nat) / (powerOfTen decimal.places : Nat) / unitsPerOne := by
  have scale_eq : (powerOfTen decimal.places : ℚ) = 10 ^ decimal.places := Nat.cast_pow 10 _
  rw [value, scale_eq, Nat.cast_mul, mul_div_right_comm,
    mul_div_cancel_right₀ _ unitsPerOne_pos.ne']

theorem value_lt_iff :
    decimal.value < overflowThreshold ↔
      ((decimal.digits * unitsPerOne : Nat) / (powerOfTen decimal.places : Nat) : ℚ) <
        unitsLimit - powerOfTwo 2044 := by
  rw [value_eq_units, overflowThreshold_eq, div_lt_div_iff_of_pos_right unitsPerOne_pos]

/-- A decimal is read as a finite number exactly below the threshold. -/
theorem isFinite_toBinary64 :
    decimal.toBinary64.isFinite ↔ decimal.value < overflowThreshold := by
  rw [value_lt_iff, ← roundedUnits_lt_iff (powerOfTen_pos _), ← isFinite_ofUnits]
  rfl

/-- Reading a decimal gives the nearest number. -/
theorem isNearest_toBinary64 (below : decimal.value < overflowThreshold) :
    IsNearest decimal.value decimal.toBinary64 := by
  rw [value_lt_iff] at below
  rw [value_eq_units]
  exact isNearest_nearest (powerOfTen_pos _) below

/-- A decimal is read as a number that is not negative exactly if that one is nearest. -/
theorem toBinary64_eq_iff {number : Binary64} (finite : number.isFinite)
    (positive : number.negative = false) :
    decimal.toBinary64 = number ↔ IsNearest decimal.value number := by
  constructor
  · rintro rfl
    exact isNearest_toBinary64 (isFinite_toBinary64.mp finite)
  · intro nearest
    have below := (le_abs_self _).trans_lt nearest.inRange
    exact (isNearest_toBinary64 below).unique nearest (nearest_nonnegative _ _) positive

end Decimal
end LoxTokens
