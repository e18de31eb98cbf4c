/-!
# Nonnegative ratios

Exact quotients of natural numbers, with the two roundings the calculator
needs: down, and to the nearest whole number with a half going to the even
neighbour. Binary and decimal numbers are both ratios scaled by a power of
their base, so reading and writing numbers is arithmetic on ratios.
-/

namespace Calculator

/-- The bases of the numbers that are read and written. -/
inductive Radix
  | two
  | ten
  deriving DecidableEq, Repr

def Radix.power : Radix → Nat → Nat
  | two, n => Nat.pow 2 n
  | ten, n => Nat.pow 10 n

theorem Radix.power_pos (base : Radix) (n : Nat) : 0 < base.power n := by
  cases base with
  | two => exact Nat.pow_pos Nat.two_pos
  | ten => exact Nat.pow_pos (by decide)

structure Ratio where
  num : Nat
  den : Nat
  den_pos : 0 < den

namespace Ratio

/-- `n · base ^ exponent`. -/
def scaled (n : Nat) (base : Radix) (exponent : Int) : Ratio :=
  if 0 ≤ exponent then
    ⟨n * base.power exponent.toNat, 1, Nat.one_pos⟩
  else
    ⟨n, base.power (-exponent).toNat, base.power_pos _⟩

/-- `r / base ^ exponent`. -/
def divPow (r : Ratio) (base : Radix) (exponent : Int) : Ratio :=
  if 0 ≤ exponent then
    ⟨r.num, r.den * base.power exponent.toNat, Nat.mul_pos r.den_pos (base.power_pos _)⟩
  else
    ⟨r.num * base.power (-exponent).toNat, r.den, r.den_pos⟩

/-- The greatest whole number that is not above the ratio. -/
def floor (r : Ratio) : Nat := r.num / r.den

/-- Whether twice the distance to the floor is at least one. -/
def isUpperHalf (r : Ratio) : Bool := r.den ≤ 2 * (r.num % r.den)

/-- The whole number nearest to the ratio. A half goes to the even neighbour. -/
def round (r : Ratio) : Nat :=
  let twice := 2 * (r.num % r.den)
  if twice < r.den then r.floor
  else if r.den < twice then r.floor + 1
  else r.floor + r.floor % 2

def isBelow (r : Ratio) (n : Nat) : Bool := r.num < n * r.den

def isAbove (r : Ratio) (n : Nat) : Bool := n * r.den < r.num

def isWhole (r : Ratio) (n : Nat) : Bool := r.num = n * r.den

end Ratio

end Calculator
