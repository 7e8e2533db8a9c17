import LoxTokens.Binary64

/-!
# Decimal numerals

A decimal is a natural number of digits scaled by a power of ten.  Reading one gives the nearest
double-precision number.  Writing a double gives all digits of a whole number followed by `.0`, and
otherwise the fewest decimal places that read back to the same number.
-/

namespace LoxTokens

/-- A non-negative decimal number: its digits, divided by ten for each place after the point. -/
structure Decimal where
  /-- All digits, read as one natural number. -/
  digits : Nat
  /-- How many of the digits follow the point. -/
  places : Nat
  deriving DecidableEq

namespace Decimal

/-- The power of ten with a given exponent. -/
def powerOfTen (exponent : Nat) : Nat := Nat.pow 10 exponent

/-- The number written by the digits before and after a point. -/
def ofDigitRuns (whole fraction : List Char) : Decimal :=
  { digits := Nat.ofDigitChars 10 (whole ++ fraction) 0
    places := fraction.length }

/-- The double-precision number nearest to a decimal. -/
def toBinary64 (decimal : Decimal) : Binary64 :=
  Binary64.nearest (decimal.digits * Binary64.unitsPerOne) (powerOfTen decimal.places)

/-- The digits of a number that has at most `width` of them, with zeros in front. -/
def paddedDigits (width number : Nat) : List Char :=
  let digits := Nat.toDigits 10 number
  List.replicate (width - digits.length) '0' ++ digits

/-- Positional text with a point and no exponent. -/
def text (decimal : Decimal) : List Char :=
  Nat.toDigits 10 (decimal.digits / powerOfTen decimal.places) ++
    '.' :: paddedDigits decimal.places (decimal.digits % powerOfTen decimal.places)

/-- A whole number with one decimal place. -/
def ofWhole (number : Nat) : Decimal := { digits := number * 10, places := 1 }

/--
The neighbour on the grid of `places` decimal places that reads back to a given magnitude, if one
does.  When both do, the nearer one is taken, and a tie goes up.
-/
def atPlaces? (magnitude : Binary64) (places : Nat) : Option Decimal :=
  let scaled := magnitude.units * powerOfTen places
  let below : Decimal := { digits := scaled / Binary64.unitsPerOne, places }
  let above : Decimal := { digits := scaled / Binary64.unitsPerOne + 1, places }
  if below.toBinary64 = magnitude then
    if above.toBinary64 = magnitude ∧
        Binary64.unitsPerOne ≤ 2 * (scaled % Binary64.unitsPerOne) then some above
    else some below
  else if above.toBinary64 = magnitude then some above
  else none

/-- Search the next `attempts` grids, and settle on the grid after them. -/
def shortestFrom (magnitude : Binary64) : (attempts places : Nat) → Decimal
  | 0, places =>
      { digits := magnitude.units * powerOfTen places / Binary64.unitsPerOne, places }
  | attempts + 1, places =>
      (atPlaces? magnitude places).getD (shortestFrom magnitude attempts (places + 1))

/--
The decimal with the fewest places, at least one, that reads back to a magnitude.  A unit has
1074 places, so every magnitude is exact there and the search needs no more grids.
-/
def shortest (magnitude : Binary64) : Decimal := shortestFrom magnitude 1073 1

/-- The decimal written for the magnitude of a finite number. -/
def ofMagnitude (magnitude : Binary64) : Decimal :=
  if magnitude.isWhole then ofWhole (magnitude.units / Binary64.unitsPerOne)
  else shortest magnitude

end Decimal

namespace Binary64

/-- Text of a number: a finite one keeps its sign, also minus zero, and a NaN has none. -/
def text (number : Binary64) : String :=
  if number.isNaN then "NaN"
  else
    let sign := if number.negative then "-" else ""
    if number.isFinite then
      sign ++ String.ofList (Decimal.ofMagnitude number.magnitude).text
    else sign ++ "inf"

end Binary64
end LoxTokens
