/-!
# Double-precision numbers

A number is held by its sign, biased exponent and fraction, and its magnitude is a whole number of
units, a unit being the distance between the smallest representable values.  Rounding is exact
arithmetic on natural numbers.  `nearest` chooses the closest representable value and sends a half
to the even neighbour; values too large for the greatest finite number become infinite.
-/

namespace LoxTokens

/-- A floating-point number with eleven exponent bits and fifty-two fraction bits. -/
structure Binary64 where
  /-- Whether the sign bit is set. -/
  negative : Bool
  /-- Biased exponent; the largest one marks infinities and NaNs. -/
  exponent : Fin 2048
  /-- Fraction bits of the significand. -/
  fraction : Fin 4503599627370496
  deriving DecidableEq

namespace Binary64

/-- Number of exponents. -/
abbrev exponentCount : Nat := 2048

/-- Number of fractions, which is also the value of the bit in front of them. -/
abbrev fractionCount : Nat := 4503599627370496

/-- Value of the sign bit in a word. -/
abbrev signValue : Nat := 9223372036854775808

/-- The power of two with a given exponent. -/
def powerOfTwo (exponent : Nat) : Nat := Nat.pow 2 exponent

/-- The number whose three fields are given, each reduced to its width. -/
def ofFields (negative : Bool) (exponent fraction : Nat) : Binary64 :=
  { negative
    exponent := ⟨exponent % exponentCount, Nat.mod_lt _ (by decide)⟩
    fraction := ⟨fraction % fractionCount, Nat.mod_lt _ (by decide)⟩ }

/-- Read the three fields from a sixty-four bit word. -/
def ofBits (bits : UInt64) : Binary64 :=
  ofFields (decide (signValue ≤ bits.toNat)) (bits.toNat / fractionCount) bits.toNat

/-- Pack the three fields into a sixty-four bit word. -/
def toBits (number : Binary64) : UInt64 :=
  UInt64.ofNat
    ((if number.negative then signValue else 0) + number.exponent.val * fractionCount +
      number.fraction.val)

/-- Positive infinity. -/
def infinity : Binary64 := ofFields false 2047 0

/-- Whether the number is neither infinite nor a NaN. -/
def isFinite (number : Binary64) : Bool := decide (number.exponent.val < 2047)

/-- Whether the number is a NaN. -/
def isNaN (number : Binary64) : Bool :=
  decide (number.exponent.val = 2047) && decide (number.fraction.val ≠ 0)

/-- Whether the number is one of the two zeros. -/
def isZero (number : Binary64) : Bool :=
  decide (number.exponent.val = 0) && decide (number.fraction.val = 0)

/-- Magnitude of a finite number, counted in units. -/
def units (number : Binary64) : Nat :=
  if number.exponent.val = 0 then number.fraction.val
  else (fractionCount + number.fraction.val) * powerOfTwo (number.exponent.val - 1)

/-- Number of units in one; the smallest representable value is one unit. -/
def unitsPerOne : Nat := powerOfTwo 1074

/-- The number without its sign. -/
def magnitude (number : Binary64) : Binary64 := { number with negative := false }

/-- Whether a finite number has no fractional part. -/
def isWhole (number : Binary64) : Bool := number.units % unitsPerOne == 0

/-- Equality as numbers: a NaN equals nothing and the two zeros are equal. -/
def sameNumber (left right : Binary64) : Bool :=
  !left.isNaN && !right.isNaN && (decide (left = right) || (left.isZero && right.isZero))

/-- The integer nearest to a quotient; a half goes to the even neighbour. -/
def roundHalfEven (numerator denominator : Nat) : Nat :=
  let quotient := numerator / denominator
  let twice := 2 * (numerator % denominator)
  if twice < denominator ∨ (twice = denominator ∧ quotient % 2 = 0) then quotient
  else quotient + 1

/-- Distance in units between representable values at a magnitude of so many units. -/
def spacing (units : Nat) : Nat := powerOfTwo (units.log2 - 52)

/-- The non-negative number of so many units; infinite when the exponent leaves its range. -/
def ofUnits (units : Nat) : Binary64 :=
  if units < fractionCount then ofFields false 0 units
  else if units.log2 < 2098 then
    ofFields false (units.log2 - 51) (units / spacing units - fractionCount)
  else infinity

/-- The representable value nearest to a non-negative quotient of units, ties to even. -/
def nearest (numerator denominator : Nat) : Binary64 :=
  let gap := spacing (numerator / denominator)
  ofUnits (roundHalfEven numerator (denominator * gap) * gap)

end Binary64
end LoxTokens
