import LoxTokens.Proofs.NearestNumbers
import LoxTokens.Proofs.NumberTexts

/-!
# Shortest decimals

The decimal that is written for a number with a fractional part has the fewest places among all
that read back to it.  The neighbours of the number on a grid are enough to test, because what reads
back lies in one stretch.  Fewest places also mean fewest digits: a decimal with fewer digits would
leave a power of ten between itself and the one that is written, and that power needs fewer places.
-/

namespace LoxTokens

/-! ## Whole numbers -/

namespace Binary64

theorem abs_value_eq_iff {number : Binary64} {whole : Nat} :
    |number.value| = whole ↔ number.units = whole * unitsPerOne := by
  rw [abs_value, div_eq_iff unitsPerOne_pos.ne']
  exact_mod_cast Iff.rfl

theorem isWhole_iff {number : Binary64} : number.isWhole ↔ unitsPerOne ∣ number.units := by
  rw [isWhole, beq_iff_eq, Nat.dvd_iff_mod_eq_zero]

/-- The magnitude of a finite number is an integer exactly if the number is whole. -/
theorem isWhole_iff_abs_value {number : Binary64} :
    number.isWhole ↔ ∃ whole : Nat, |number.value| = whole := by
  simp only [isWhole_iff, abs_value_eq_iff, Dvd.dvd, Nat.mul_comm]

/-- A number with a fractional part is so small that all integers around it are numbers. -/
theorem units_lt_of_fractional {number : Binary64} (fractional : ¬ number.isWhole) :
    number.units < fractionCount * unitsPerOne := by
  have grid : spacing (powerOfTwo 1126) = unitsPerOne := by
    rw [spacing, log2_powerOfTwo]
    rfl
  rcases spacing_dvd_or_lt (spacing_dvd_units number) (powerOfTwo 1126) with divides | ⟨below, -⟩
  · rw [grid] at divides
    exact (fractional (isWhole_iff.mpr divides)).elim
  · rwa [grid] at below

theorem exists_value_eq {whole : Nat} (fits : whole ≤ fractionCount) :
    ∃ number : Binary64, number.isFinite ∧ number.value = whole := by
  have onGrid : spacing (whole * unitsPerOne) ∣ whole * unitsPerOne :=
    spacing_dvd_mul (fits.trans (Nat.le_mul_of_pos_left _ two_pos)) 1074
  have count_eq : fractionCount = powerOfTwo 52 := rfl
  have below : whole * unitsPerOne < unitsLimit := by
    calc
      whole * unitsPerOne ≤ fractionCount * unitsPerOne := Nat.mul_le_mul_right _ fits
      _ = powerOfTwo (52 + 1074) := by rw [count_eq, unitsPerOne, powerOfTwo_add]
      _ < unitsLimit := powerOfTwo_lt (by decide)
  have positive := ofUnits_nonnegative (whole * unitsPerOne)
  refine ⟨ofUnits (whole * unitsPerOne), isFinite_ofUnits.mpr below, ?_⟩
  rw [value_of_nonnegative positive, units_ofUnits onGrid below, Nat.cast_mul,
    mul_div_cancel_right₀ _ unitsPerOne_pos.ne']

/-- An integer does not read back to a number with a fractional part. -/
theorem not_isNearest_whole {number : Binary64} (positive : number.negative = false)
    (fractional : ¬ number.isWhole) (whole : Nat) : ¬ IsNearest whole number := by
  intro nearest
  have value_eq := value_of_nonnegative positive
  have own := isNearest_value nearest.finite
  have divided := Nat.div_add_mod number.units unitsPerOne
  have scale : 0 < unitsPerOne := powerOfTwo_pos 1074
  have small : number.units / unitsPerOne < fractionCount :=
    Nat.div_lt_of_lt_mul (Nat.mul_comm _ _ ▸ units_lt_of_fractional fractional)
  have floor_le : ((number.units / unitsPerOne : Nat) : ℚ) ≤ number.value :=
    value_eq ▸ Nat.cast_div_le
  have lt_ceil : number.value < (number.units / unitsPerOne + 1 : Nat) := by
    rw [value_eq, div_lt_iff₀ unitsPerOne_pos]
    exact_mod_cast Nat.lt_mul_of_div_lt (Nat.lt_succ_self _) scale
  -- An integer beside the number would have it as the nearest one, but is a number itself.
  have apart : ∀ integer : Nat, integer ≤ fractionCount → ¬ IsNearest integer number := by
    intro integer fits beside
    obtain ⟨other, finite, other_value⟩ := exists_value_eq fits
    have closest := beside.closest other finite
    rw [other_value, sub_self, abs_zero, abs_nonpos_iff, sub_eq_zero] at closest
    refine fractional (isWhole_iff_abs_value.mpr ⟨integer, ?_⟩)
    rw [← closest, Nat.abs_cast]
  rcases Nat.lt_or_ge (number.units / unitsPerOne) whole with above | below
  · exact apart _ small (own.between nearest lt_ceil.le (Nat.cast_le.mpr above))
  · exact apart _ small.le (nearest.between own (Nat.cast_le.mpr below) floor_le)

end Binary64

namespace Decimal

open Binary64

variable {number : Binary64}

/-! ## Fewest places -/

/-- If a decimal reads back, so does a neighbour of the number on the same grid. -/
theorem atPlaces?_ne_none (positive : number.negative = false) {decimal : Decimal}
    (nearest : IsNearest decimal.value number) : atPlaces? number decimal.places ≠ none := by
  have scale : (0 : ℚ) < 10 ^ decimal.places := by positivity
  have own := isNearest_value nearest.finite
  have value_eq : number.value =
      (number.units * powerOfTen decimal.places : Nat) / unitsPerOne / 10 ^ decimal.places := by
    have power : (powerOfTen decimal.places : ℚ) = 10 ^ decimal.places := Nat.cast_pow 10 _
    rw [value_of_nonnegative positive, Nat.cast_mul, power, div_right_comm,
      mul_div_cancel_right₀ _ scale.ne']
  unfold atPlaces?
  dsimp only
  generalize number.units * powerOfTen decimal.places = scaled at value_eq
  rcases Nat.lt_or_ge (scaled / unitsPerOne) decimal.digits with high | low
  · have above : IsNearest (value { digits := scaled / unitsPerOne + 1, places := decimal.places })
        number := by
      refine own.between nearest ?_ (div_le_div_of_nonneg_right (Nat.cast_le.mpr high) scale.le)
      rw [value_eq]
      refine div_le_div_of_nonneg_right ?_ scale.le
      rw [div_le_iff₀ unitsPerOne_pos]
      exact_mod_cast (Nat.lt_mul_of_div_lt (Nat.lt_succ_self _) (powerOfTwo_pos 1074)).le
    rw [if_pos ((toBinary64_eq_iff nearest.finite positive).mpr above)]
    split
    · split <;> simp
    · simp
  · have below : IsNearest (value { digits := scaled / unitsPerOne, places := decimal.places })
        number := by
      refine nearest.between own (div_le_div_of_nonneg_right (Nat.cast_le.mpr low) scale.le) ?_
      rw [value_eq]
      exact div_le_div_of_nonneg_right Nat.cast_div_le scale.le
    rw [if_pos ((toBinary64_eq_iff nearest.finite positive).mpr below)]
    split <;> simp

/-- The search passes only grids on which nothing reads back. -/
theorem atPlaces?_passed {attempts first places : Nat} (first_le : first ≤ places)
    (passed : places < (shortestFrom number attempts first).places) :
    atPlaces? number places = none := by
  induction attempts generalizing first with
  | zero => exact absurd passed first_le.not_gt
  | succ attempts ih =>
      cases found : atPlaces? number first with
      | some decimal =>
          rw [shortestFrom, found] at passed
          exact absurd passed ((atPlaces?_eq_some found).2.trans_le first_le).not_gt
      | none =>
          rw [shortestFrom, found] at passed
          rcases first_le.eq_or_lt with rfl | later
          · exact found
          · exact ih later passed

/-- What reads back to a number with a fractional part has as many places as is written, or more. -/
theorem places_shortest_le (positive : number.negative = false) (fractional : ¬ number.isWhole)
    {decimal : Decimal} (nearest : IsNearest decimal.value number) :
    (shortest number).places ≤ decimal.places := by
  by_contra fewer
  rcases Nat.eq_zero_or_pos decimal.places with none | some
  · refine not_isNearest_whole positive fractional decimal.digits ?_
    rwa [value, none, pow_zero, div_one] at nearest
  · exact atPlaces?_ne_none positive nearest (atPlaces?_passed some (Nat.not_le.mp fewer))

/-! ## Fewest digits -/

/-- No decimal with fewer digits reads back to a number with a fractional part. -/
theorem length_digits_shortest_le (positive : number.negative = false)
    (fractional : ¬ number.isWhole) {decimal : Decimal}
    (nearest : IsNearest decimal.value number) :
    (Nat.toDigits 10 (shortest number).digits).length ≤
      (Nat.toDigits 10 decimal.digits).length := by
  have written : IsNearest (shortest number).value number :=
    (toBinary64_eq_iff nearest.finite positive).mp
      (toBinary64_shortestFrom nearest.finite positive rfl)
  have places_le := places_shortest_le positive fractional nearest
  by_contra fewer
  rw [Nat.not_le] at fewer
  generalize count_eq : (Nat.toDigits 10 decimal.digits).length = count at fewer
  have count_pos : 0 < count := count_eq ▸ Nat.length_toDigits_pos
  have below : decimal.digits < 10 ^ count :=
    (Nat.length_toDigits_le_iff (by decide) count_pos).mp count_eq.le
  have above : 10 ^ count ≤ (shortest number).digits := by
    by_contra small
    have shorter := (Nat.length_toDigits_le_iff (by decide) count_pos).mpr (Nat.not_le.mp small)
    omega
  -- The power of ten lies between the two decimals, so that it reads back as well.
  have power : IsNearest (10 ^ count / 10 ^ (shortest number).places : ℚ) number := by
    refine nearest.between written ?_ ?_
    · calc
        decimal.value ≤ 10 ^ count / 10 ^ decimal.places :=
          div_le_div_of_nonneg_right (by exact_mod_cast below.le) (by positivity)
        _ ≤ 10 ^ count / 10 ^ (shortest number).places := by
          gcongr
          norm_num
    · exact div_le_div_of_nonneg_right (by exact_mod_cast above) (by positivity)
  rcases Nat.le_total (shortest number).places count with whole | fraction
  · obtain ⟨more, rfl⟩ := Nat.exists_eq_add_of_le whole
    refine not_isNearest_whole positive fractional (10 ^ more) ?_
    rwa [pow_add, mul_div_cancel_left₀ _ (by positivity), ← Nat.cast_ofNat, ← Nat.cast_pow] at power
  · obtain ⟨more, places_eq⟩ := Nat.exists_eq_add_of_le fraction
    rw [places_eq, pow_add, div_mul_eq_div_div, div_self (by positivity)] at power
    have fewest : (shortest number).places ≤ more :=
      @places_shortest_le number positive fractional { digits := 1, places := more }
        (by simpa [value] using power)
    omega

end Decimal
end LoxTokens
