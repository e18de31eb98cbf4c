import Calculator.Binary64

/-!
# Decimal numbers

A nonnegative decimal `significand · 10 ^ exponent`, its value as a 64-bit
number, and its digits.
-/

namespace Calculator

/-- The decimal number `significand · 10 ^ exponent`. -/
structure Decimal where
  significand : Nat
  exponent : Int
  deriving DecidableEq, Repr

namespace Decimal

/-- The decimal digits of a natural number, without leading zeros. -/
def digitsOf (n : Nat) : List Char := Nat.toDigits 10 n

def digits (d : Decimal) : List Char := digitsOf d.significand

/-- The position of the point relative to the first digit: the number is
`0.d₁d₂… · 10 ^ pointPosition`. -/
def pointPosition (d : Decimal) : Int := d.digits.length + d.exponent

/-- A decimal whose point lies further right is at least `10 ^ 309`, above
all finite 64-bit numbers. -/
def infinitePosition : Int := 309

/-- A decimal whose point lies here or further left is below `10 ^ (-324)`,
less than half of the least positive 64-bit number. -/
def zeroPosition : Int := -324

/-- The 64-bit number nearest to a decimal with a given sign. Decimals that
are certain to be infinite or zero are settled by the position of their point,
so an enormous exponent costs nothing. -/
def toFloat (negative : Bool) (d : Decimal) : Float :=
  if d.significand = 0 then Binary64.zero negative
  else if infinitePosition < d.pointPosition then Binary64.infinity negative
  else if d.pointPosition ≤ zeroPosition then Binary64.zero negative
  else Binary64.nearest negative (Ratio.scaled d.significand .ten d.exponent)

/-- The same number without trailing zeros in its significand. -/
def trimZeros (d : Decimal) : Decimal :=
  if 0 < d.significand ∧ d.significand % 10 = 0 then
    trimZeros ⟨d.significand / 10, d.exponent + 1⟩
  else d
termination_by d.significand
decreasing_by omega

end Decimal

end Calculator
