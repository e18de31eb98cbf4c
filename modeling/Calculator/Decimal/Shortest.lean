import Calculator.Decimal.Basic

/-!
# The shortest decimal of a binary number

Among all decimals that read back as a given 64-bit number, the calculator
writes one with the fewest digits, and of those the nearest to the number.

The decimals that read back as `x` are those in a neighbourhood of `x` that
reaches half way to the next number on either side. For one digit, two digits
and so on, the two decimals next to `x` with that many digits are tested; the
first count with a hit wins. Seventeen digits always suffice.
-/

namespace Calculator.Decimal

/-- The ratios that round to a positive number `middle`: those between `low`
and `high`, with both ends when the neighbourhood is closed. -/
structure Neighbourhood where
  low : Ratio
  middle : Ratio
  high : Ratio
  closed : Bool

namespace Neighbourhood

/-- The neighbourhood of `significand · 2 ^ exponent`. The gap to the next
number below is half as wide at a power of two, because the numbers below it
are spaced twice as densely, except at the least exponent. Ties go to even
significands, so the ends belong to the even ones. -/
def ofParts (significand : Nat) (exponent : Int) : Neighbourhood :=
  let narrow := significand = Radix.two.power (Binary64.precision - 1) ∧
    exponent ≠ Binary64.leastExponent
  { low := Ratio.scaled (4 * significand - (if narrow then 1 else 2)) .two (exponent - 2)
    middle := Ratio.scaled (4 * significand) .two (exponent - 2)
    high := Ratio.scaled (4 * significand + 2) .two (exponent - 2)
    closed := significand % 2 = 0 }

/-- Whether the decimal `n · 10 ^ k` lies in the neighbourhood. -/
def holds (x : Neighbourhood) (n : Nat) (k : Int) : Bool :=
  let low := x.low.divPow .ten k
  let high := x.high.divPow .ten k
  (low.isBelow n && high.isAbove n) || (x.closed && (low.isWhole n || high.isWhole n))

/-- The decimal position of the first digit of the middle: the `p` with
`10 ^ (p - 1) ≤ middle < 10 ^ p`. -/
def pointPosition (x : Neighbourhood) : Int :=
  let r := x.middle
  if r.den ≤ r.num then
    (digitsOf (r.num / r.den)).length
  else
    let width := (digitsOf (r.den / r.num)).length
    if r.num * Radix.ten.power (width - 1) = r.den then 2 - width else 1 - width

/-- The better of the two multiples of `10 ^ k` next to the middle, if one of
them lies in the neighbourhood. Of two, the nearer one is better; at equal
distance it is the greater one. -/
def closest? (x : Neighbourhood) (k : Int) : Option Decimal :=
  let middle := x.middle.divPow .ten k
  let below := middle.floor
  match x.holds below k, x.holds (below + 1) k with
  | true, true => some ⟨if middle.isUpperHalf then below + 1 else below, k⟩
  | true, false => some ⟨below, k⟩
  | false, true => some ⟨below + 1, k⟩
  | false, false => none

end Neighbourhood

/-- The most digits that are ever needed to tell a 64-bit number from its
neighbours. -/
def mostDigits : Nat := 17

/-- The whole expansion of `significand · 2 ^ exponent`: a negative power of
two is a power of five over a power of ten. -/
def expansion (significand : Nat) (exponent : Int) : Decimal :=
  if 0 ≤ exponent then ⟨significand * Radix.two.power exponent.toNat, 0⟩
  else ⟨significand * Nat.pow 5 (-exponent).toNat, exponent⟩

/-- The shortest decimal that reads back as `significand · 2 ^ exponent`, and
of the shortest ones the nearest. -/
def shortest (significand : Nat) (exponent : Int) : Decimal :=
  let x := Neighbourhood.ofParts significand exponent
  let first := x.pointPosition - 1
  let found := (List.range mostDigits).findSome? fun more : Nat =>
    x.closest? (first - (more : Int))
  (found.getD (expansion significand exponent)).trimZeros

end Calculator.Decimal
