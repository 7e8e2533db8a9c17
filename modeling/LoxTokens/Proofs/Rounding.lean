import LoxTokens.Decimal
import Mathlib.Data.Nat.Log
import Mathlib.Tactic.Ring

/-!
# Exact rounding

A finite number lies on the grid at its own magnitude.  Rounding a quotient that is such a number of
units therefore changes nothing, and gives the number back.
-/

namespace LoxTokens
namespace Binary64

/-- The fields of a number whose fields are in range are those given. -/
theorem ofFields_val {number : Binary64} (positive : number.negative = false) :
    ofFields false number.exponent.val number.fraction.val = number := by
  obtain ⟨negative, exponent, fraction⟩ := number
  obtain rfl : negative = false := positive
  simp [ofFields, Nat.mod_eq_of_lt exponent.isLt, Nat.mod_eq_of_lt fraction.isLt]

theorem isNaN_of_isFinite {number : Binary64} (finite : number.isFinite) :
    number.isNaN = false := by
  have exponent_lt : number.exponent.val < 2047 := of_decide_eq_true finite
  simp [isNaN, exponent_lt.ne]

/-- The magnitude of a number that has a bit in front of its fraction. -/
theorem log2_units {number : Binary64} (normal : number.exponent.val ≠ 0) :
    number.units.log2 = number.exponent.val + 51 := by
  have fraction_lt := number.fraction.isLt
  have exponent_eq : number.exponent.val + 51 = 52 + (number.exponent.val - 1) := by omega
  have units_eq : number.units =
      (2 ^ 52 + number.fraction.val) * 2 ^ (number.exponent.val - 1) := by
    rw [units, if_neg normal]
    rfl
  have positive : 0 < 2 ^ (number.exponent.val - 1) := Nat.two_pow_pos _
  have units_ne : number.units ≠ 0 := by
    rw [units_eq]
    exact Nat.mul_ne_zero (by omega) positive.ne'
  rw [Nat.log2_eq_iff units_ne, exponent_eq, units_eq, Nat.pow_add, Nat.add_right_comm, Nat.pow_add]
  constructor
  · exact Nat.mul_le_mul_right _ (by omega)
  · exact (Nat.mul_lt_mul_right positive).mpr (by omega)

theorem units_subnormal {number : Binary64} (subnormal : number.exponent.val = 0) :
    number.units = number.fraction.val := by
  rw [units, if_pos subnormal]

theorem units_normal {number : Binary64} (normal : number.exponent.val ≠ 0) :
    number.units =
      (fractionCount + number.fraction.val) * spacing number.units := by
  have exponent_eq : number.exponent.val + 51 - 52 = number.exponent.val - 1 := by omega
  rw [spacing, log2_units normal, exponent_eq, units, if_neg normal]

theorem spacing_of_lt {units : Nat} (small : units < fractionCount) : spacing units = 1 := by
  have below : units.log2 < 52 := by
    by_cases zero : units = 0
    · rw [zero]
      decide
    · exact (Nat.log2_lt zero).mpr small
  rw [spacing, Nat.sub_eq_zero_of_le below.le]
  rfl

theorem spacing_pos (units : Nat) : 0 < spacing units := Nat.two_pow_pos _

/-- A number lies on the grid at its magnitude. -/
theorem spacing_dvd_units (number : Binary64) : spacing number.units ∣ number.units := by
  by_cases normal : number.exponent.val = 0
  · rw [spacing_of_lt (units_subnormal normal ▸ number.fraction.isLt)]
    exact Nat.one_dvd _
  · exact ⟨fractionCount + number.fraction.val, (units_normal normal).trans (Nat.mul_comm _ _)⟩

/-- A finite number is told by its units and its sign. -/
theorem ofUnits_units {number : Binary64} (finite : number.isFinite)
    (positive : number.negative = false) : ofUnits number.units = number := by
  have exponent_lt : number.exponent.val < 2047 := of_decide_eq_true finite
  by_cases normal : number.exponent.val = 0
  · have small : number.fraction.val < fractionCount := number.fraction.isLt
    rw [ofUnits, units_subnormal normal, if_pos small]
    simpa [normal] using ofFields_val positive
  · have log_eq := log2_units normal
    have large : ¬ number.units < fractionCount := by
      intro small
      have grid := spacing_of_lt small
      have units_eq := units_normal normal
      rw [grid] at units_eq
      omega
    have quotient : number.units / spacing number.units = fractionCount + number.fraction.val :=
      Nat.div_eq_of_eq_mul_left (spacing_pos _) (units_normal normal)
    rw [ofUnits, if_neg large, if_pos (by omega), quotient, Nat.add_sub_cancel_left, log_eq]
    exact ofFields_val positive

/-- A quotient that is a number on its grid is not rounded. -/
theorem roundHalfEven_mul (quotient : Nat) {denominator : Nat} (positive : 0 < denominator) :
    roundHalfEven (quotient * denominator) denominator = quotient := by
  simp [roundHalfEven, Nat.mul_div_cancel _ positive, positive]

theorem nearest_of_dvd {units scale : Nat} (positive : 0 < scale) (onGrid : spacing units ∣ units) :
    nearest (units * scale) scale = ofUnits units := by
  obtain ⟨count, units_eq⟩ := onGrid
  have magnitude : units * scale / scale = units := Nat.mul_div_cancel _ positive
  have quotient : units * scale = count * (scale * spacing units) := by
    calc
      units * scale = spacing units * count * scale := by rw [← units_eq]
      _ = count * (scale * spacing units) := by ring
  have rounded : roundHalfEven (units * scale) (scale * spacing units) = count := by
    rw [quotient]
    exact roundHalfEven_mul count (Nat.mul_pos positive (spacing_pos units))
  rw [nearest, magnitude, rounded, Nat.mul_comm, ← units_eq]

/-- Rounding gives a finite number back, in whatever terms its units are put. -/
theorem nearest_units {number : Binary64} (finite : number.isFinite)
    (positive : number.negative = false) {scale : Nat} (nonzero : 0 < scale) :
    nearest (number.units * scale) scale = number := by
  rw [nearest_of_dvd nonzero (spacing_dvd_units number), ofUnits_units finite positive]

theorem ofUnits_nonnegative (units : Nat) : (ofUnits units).negative = false := by
  unfold ofUnits
  split
  · rfl
  · split <;> rfl

/-- No quotient is rounded to a negative number. -/
theorem nearest_nonnegative (numerator denominator : Nat) :
    (nearest numerator denominator).negative = false :=
  ofUnits_nonnegative _

end Binary64
end LoxTokens
