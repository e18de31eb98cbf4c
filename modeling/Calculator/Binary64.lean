import Calculator.Ratio

/-!
# Binary floating-point numbers, exactly

A finite 64-bit number is a sign and a magnitude `significand · 2 ^ exponent`.
This module takes numbers apart into that form, finds the number nearest to
a ratio, and computes the exact remainder of a division.
-/

namespace Calculator.Binary64

/-- What a 64-bit number denotes. A finite magnitude is
`significand · 2 ^ exponent`. -/
inductive Parts
  | nan
  | infinite (negative : Bool)
  | finite (negative : Bool) (significand : Nat) (exponent : Int)
  deriving DecidableEq, Repr

/-- The exponent of the smallest positive number. -/
def leastExponent : Int := -1074

/-- The number of bits of a full significand, its leading bit included. -/
def precision : Nat := 53

/-- Takes a number apart. The exponent field 2047 marks the values that are
not finite; the field 0 has no implied leading bit. -/
def parts (x : Float) : Parts :=
  let bits := x.toBits.toNat
  let negative : Bool := Radix.two.power 63 ≤ bits
  let field : Nat := bits / Radix.two.power 52 % Radix.two.power 11
  let fraction : Nat := bits % Radix.two.power 52
  if field = 2047 then
    if fraction = 0 then .infinite negative else .nan
  else if field = 0 then .finite negative fraction leastExponent
  else .finite negative (fraction + Radix.two.power 52) ((field : Int) + leastExponent - 1)

def nan : Float := Float.ofBits 0x7FF8000000000000

/-- The number with a given sign and the magnitude
`significand · 2 ^ exponent`. The exponent is at least the least one, and the
significand has 53 bits unless the exponent is the least one. Adding the
significand, leading bit included, to the exponent field one step below makes
a significand of `2 ^ 53` carry into the exponent. A magnitude past the
greatest finite one becomes infinite. -/
def ofMagnitude (negative : Bool) (significand : Nat) (exponent : Int) : Float :=
  let hidden := Radix.two.power 52
  let magnitude := min (2047 * hidden) ((exponent - leastExponent).toNat * hidden + significand)
  Float.ofBits (UInt64.ofNat ((if negative then Radix.two.power 63 else 0) + magnitude))

def zero (negative : Bool) : Float := ofMagnitude negative 0 leastExponent

def infinity (negative : Bool) : Float :=
  ofMagnitude negative (2047 * Radix.two.power 52) leastExponent

/-- The power of two in which a positive ratio lies: `2 ^ k ≤ r < 2 ^ (k + 1)`. -/
def floorLog2 (r : Ratio) : Int :=
  let guess : Int := (r.num.log2 : Int) - r.den.log2
  if (r.divPow .two guess).isBelow 1 then guess - 1 else guess

/-- The number nearest to a ratio. A tie goes to the even significand; ratios
too small for the least positive number give zero, ratios too large for the
greatest finite one give infinity. -/
def nearest (negative : Bool) (r : Ratio) : Float :=
  if r.num = 0 then zero negative
  else
    let exponent := max leastExponent (floorLog2 r + 1 - precision)
    ofMagnitude negative (r.divPow .two exponent).round exponent

/-- The exact remainder of the division of `x` by `y`, with the sign of `x`:
`x` minus the whole multiple of `y` that lies nearest to `x` on the side of
zero. It is never rounded, because the remainder of two numbers is a number.
An infinite dividend or a divisor of zero has no remainder; an infinite
divisor leaves a finite dividend as it is. -/
def remainder (x y : Float) : Float :=
  match parts x, parts y with
  | .finite negative m e, .finite _ n f =>
    if n = 0 then nan
    else
      let least := min e f
      let whole := m * Radix.two.power (e - least).toNat % (n * Radix.two.power (f - least).toNat)
      nearest negative (Ratio.scaled whole .two least)
  | .finite .., .infinite _ => x
  | _, _ => nan

end Calculator.Binary64
