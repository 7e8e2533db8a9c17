import LoxTokens.Proofs.ShortestDecimals

/-!
# Written numbers

The text of a finite number is a numeral behind an optional minus sign.  A whole number is written
with all its digits, and any other number with as few digits as read back to it.  Reading the text
gives the number back, bit for bit, so that different numbers have different texts.
-/

namespace LoxTokens

/-! ## Signs -/

namespace Binary64

theorem eq_of_magnitude {left right : Binary64} (same : left.magnitude = right.magnitude)
    (sign : left.negative = right.negative) : left = right := by
  obtain ⟨leftSign, leftExponent, leftFraction⟩ := left
  obtain ⟨rightSign, rightExponent, rightFraction⟩ := right
  obtain rfl : leftSign = rightSign := sign
  simpa [magnitude] using same

theorem opposite_eq_magnitude {number : Binary64} (negative : number.negative = true) :
    number.opposite = number.magnitude := by
  rw [opposite, negative]
  rfl

/-- A negative number is nearest to a value when its magnitude is nearest to the opposite value. -/
theorem isNearest_magnitude_iff {value : ℚ} {number : Binary64}
    (negative : number.negative = true) :
    IsNearest value number.magnitude ↔ IsNearest (-value) number := by
  rw [← opposite_eq_magnitude negative]
  constructor
  · intro nearest
    have mirrored := nearest.opposite
    rwa [opposite_opposite] at mirrored
  · intro nearest
    have mirrored := nearest.opposite
    rwa [neg_neg] at mirrored

/-- A value has the sign of its nearest number, if that number has a fractional part. -/
theorem IsNearest.abs {value : ℚ} {number : Binary64} (nearest : IsNearest value number)
    (fractional : ¬ number.isWhole) : IsNearest |value| number.magnitude := by
  have nonneg : ∀ {other : ℚ}, IsNearest other number.magnitude → 0 ≤ other := by
    intro other beside
    by_contra below
    have own := isNearest_value beside.finite
    have value_nonneg : 0 ≤ number.magnitude.value := by
      rw [value_of_nonnegative rfl]
      exact div_nonneg (Nat.cast_nonneg _) unitsPerOne_pos.le
    refine @not_isNearest_whole number.magnitude rfl fractional 0 ?_
    rw [Nat.cast_zero]
    exact beside.between own (not_le.mp below).le value_nonneg
  cases sign : number.negative with
  | false =>
      rw [← magnitude_eq sign] at nearest
      rwa [abs_of_nonneg (nonneg nearest)]
  | true =>
      have mirrored := (isNearest_magnitude_iff sign).mpr (neg_neg value ▸ nearest)
      rwa [← abs_neg, abs_of_nonneg (nonneg mirrored)]

end Binary64

open Binary64

/-! ## Reading texts -/

/-- Reading a text gives the number that is nearest to the value of its numeral and has its sign. -/
inductive ReadsAs : List Char → Binary64 → Prop where
  | plain {text : List Char} {decimal : Decimal} {number : Binary64} :
      Numeral text decimal → number.negative = false → IsNearest decimal.value number →
        ReadsAs text number
  | minus {text : List Char} {decimal : Decimal} {number : Binary64} :
      Numeral text decimal → number.negative = true → IsNearest (-decimal.value) number →
        ReadsAs ('-' :: text) number

/-- The numbers that are nearest to the value of a numeral are the same. -/
theorem Numeral.nearest_unique {text : List Char} {left right : Decimal} {number other : Binary64}
    (isLeft : Numeral text left) (isRight : Numeral text right)
    (nearest : IsNearest left.value number) (positive : number.negative = false)
    (otherNearest : IsNearest right.value other) (otherPositive : other.negative = false) :
    number = other := by
  have left_eq := (Decimal.toBinary64_eq_iff nearest.finite positive).mpr nearest
  have right_eq := (Decimal.toBinary64_eq_iff otherNearest.finite otherPositive).mpr otherNearest
  have same := @Lexeme.unique {} _ _ _ (.number isLeft (left_eq ▸ nearest.finite))
    (.number isRight (right_eq ▸ otherNearest.finite))
  rw [left_eq, right_eq] at same
  exact Literal.number.inj (Verdict.token.inj same).2

/-- A text is read as one number at most. -/
theorem ReadsAs.unique {text : List Char} {number other : Binary64} (reads : ReadsAs text number)
    (otherReads : ReadsAs text other) : number = other := by
  have no_minus {rest : List Char} {decimal : Decimal} : ¬ Numeral ('-' :: rest) decimal :=
    fun numeral => Bool.false_ne_true numeral.first_digit
  cases reads with
  | plain numeral positive nearest =>
      cases otherReads with
      | plain otherNumeral otherPositive otherNearest =>
          exact numeral.nearest_unique otherNumeral nearest positive otherNearest otherPositive
      | minus => exact (no_minus numeral).elim
  | minus numeral negative nearest =>
      cases otherReads with
      | plain otherNumeral => exact (no_minus otherNumeral).elim
      | minus otherNumeral otherNegative otherNearest =>
          rw [← isNearest_magnitude_iff negative] at nearest
          rw [← isNearest_magnitude_iff otherNegative] at otherNearest
          have same := numeral.nearest_unique otherNumeral nearest rfl otherNearest rfl
          exact eq_of_magnitude same (negative.trans otherNegative.symm)

/-! ## Written texts -/

theorem Decimal.text_ofWhole (whole : Nat) :
    (ofWhole whole).text = Nat.toDigits 10 whole ++ ['.', '0'] := by
  have tenth : powerOfTen 1 = 10 := rfl
  rw [text, ofWhole, tenth, Nat.mul_div_cancel _ (by decide), Nat.mul_mod_left]
  rfl

/-- The text of a finite number reads back to it. -/
theorem readsAs_text {number : Binary64} (finite : number.isFinite) :
    ReadsAs number.text.toList number := by
  have numeral := Decimal.numeral_text (Decimal.places_ofMagnitude_pos number.magnitude)
  have reads_back := @Decimal.toBinary64_ofMagnitude number.magnitude finite rfl
  have nearest := (@Decimal.toBinary64_eq_iff _ number.magnitude finite rfl).mp reads_back
  rw [toList_text finite]
  cases sign : number.negative with
  | false => exact .plain numeral sign (magnitude_eq sign ▸ nearest)
  | true => exact .minus numeral sign ((isNearest_magnitude_iff sign).mp nearest)

/-- No decimal with fewer digits reads back to a number with a fractional part. -/
theorem length_digits_le {number : Binary64} (fractional : ¬ number.isWhole) {digits exponent : ℤ}
    (nearest : IsNearest (digits * 10 ^ exponent) number) :
    (Nat.toDigits 10 (Decimal.shortest number.magnitude).digits).length ≤
      (Nat.toDigits 10 digits.natAbs).length := by
  have magnitude_nearest := nearest.abs fractional
  have size : |(digits : ℚ) * 10 ^ exponent| = digits.natAbs * 10 ^ exponent := by
    rw [abs_mul, abs_zpow, Nat.cast_natAbs, Int.cast_abs, abs_of_pos (by decide : (0 : ℚ) < 10)]
  rw [size] at magnitude_nearest
  obtain ⟨places, rfl | rfl⟩ := exponent.eq_nat_or_neg
  · refine (@not_isNearest_whole number.magnitude rfl fractional
      (digits.natAbs * 10 ^ places) ?_).elim
    rwa [Nat.cast_mul, Nat.cast_pow, Nat.cast_ofNat, ← zpow_natCast]
  · rw [zpow_neg, zpow_natCast, ← div_eq_mul_inv] at magnitude_nearest
    exact @Decimal.length_digits_shortest_le number.magnitude rfl fractional
      { digits := digits.natAbs, places } magnitude_nearest

/-- The text of a finite number keeps its value and is as short as that allows. -/
structure IsWritten (number : Binary64) (text : List Char) : Prop where
  /-- A whole number is written with all its digits, one zero after the point, and its sign. -/
  whole : ∀ whole : Nat, |number.value| = whole →
    text = (if number.negative then ['-'] else []) ++ Nat.toDigits 10 whole ++ ['.', '0']
  /--
  Any other number is written with a point between digits, and no decimal that reads back to the
  number has fewer digits, zeros in front not being counted.
  -/
  positional : (∀ whole : Nat, |number.value| ≠ whole) →
    ∃ whole fraction, IsDigits whole ∧ IsDigits fraction ∧
      text = (if number.negative then ['-'] else []) ++ whole ++ '.' :: fraction ∧
      ∀ digits exponent : ℤ, IsNearest (digits * 10 ^ exponent) number →
        (Nat.toDigits 10 (Decimal.ofDigitRuns whole fraction).digits).length ≤
          (Nat.toDigits 10 digits.natAbs).length
  /-- The text reads back to the number. -/
  readsBack : ReadsAs text number
  /-- It reads back to no other number. -/
  only : ∀ other, ReadsAs text other → other = number
  /-- No other finite number has the same text. -/
  distinct : ∀ other : Binary64, other.isFinite → (Literal.number other).text.toList = text →
    other = number

/-- The printed form of every finite number is the shortest one that keeps its value. -/
theorem isWritten_text {number : Binary64} (finite : number.isFinite) :
    IsWritten number (Literal.number number).text.toList where
  whole := by
    intro whole value_eq
    have isWhole : number.magnitude.isWhole :=
      (@isWhole_iff_abs_value number).mpr ⟨whole, value_eq⟩
    have units_eq : number.magnitude.units / unitsPerOne = whole := by
      rw [abs_value_eq_iff] at value_eq
      exact Nat.div_eq_of_eq_mul_left (powerOfTwo_pos 1074) value_eq
    rw [Literal.text, toList_text finite, Decimal.ofMagnitude, if_pos isWhole, units_eq,
      Decimal.text_ofWhole, List.append_assoc]
  positional := by
    intro not_whole
    have fractional : ¬ number.magnitude.isWhole := by
      intro isWhole
      obtain ⟨whole, value_eq⟩ := (@isWhole_iff_abs_value number).mp isWhole
      exact not_whole whole value_eq
    obtain ⟨whole, fraction, whole_digits, fraction_digits, text_eq, decimal_eq⟩ :=
      Decimal.exists_digitRuns (Decimal.le_places_shortestFrom number.magnitude 1073 1)
    refine ⟨whole, fraction, whole_digits, fraction_digits, ?_, ?_⟩
    · rw [Literal.text, toList_text finite, Decimal.ofMagnitude, if_neg fractional,
        Decimal.shortest, text_eq, List.append_assoc]
    · intro digits exponent nearest
      rw [decimal_eq]
      exact @length_digits_le number fractional _ _ nearest
  readsBack := readsAs_text finite
  only := fun _ reads => reads.unique (readsAs_text finite)
  distinct := by
    intro other other_finite same
    have reads := readsAs_text other_finite
    rw [← show (Literal.number other).text = other.text from rfl, same] at reads
    exact reads.unique (readsAs_text finite)

theorem isWritten_text_smallest :
    (ofFields true 0 1).isFinite ∧
      IsWritten (ofFields true 0 1) (Literal.number (ofFields true 0 1)).text.toList :=
  ⟨by decide, isWritten_text (by decide)⟩

end LoxTokens
