import Calculator.Decimal.Shortest

/-!
# How numbers are written

Three forms of output are in use. A result is written with the digits that
read back, always with a point or an exponent. The log writes the same digits
without exponent and without a point in whole numbers. A listing writes a
fixed number of places.
-/

namespace Calculator

/-- Decisions of a form of output that writes the shortest digits. -/
structure NumberStyle where
  /-- The powers of ten of the first digit, least and greatest, for which no
  exponent is written. Without bounds none is ever written. -/
  plainRange : Option (Int × Int)
  /-- What follows a whole number that is written without exponent. -/
  wholeEnding : String

namespace NumberStyle

/-- Results: an exponent from `10 ^ 16` on and below `10 ^ (-4)`, and `.0`
after whole numbers. -/
def result : NumberStyle := ⟨some (-4, 15), ".0"⟩

/-- Numbers in log messages: never an exponent, nothing after whole numbers. -/
def log : NumberStyle := ⟨none, ""⟩

def plain (style : NumberStyle) (digits : List Char) (point : Int) : String :=
  if point ≤ 0 then
    String.ofList ('0' :: '.' :: (List.replicate (-point).toNat '0' ++ digits))
  else if digits.length ≤ point.toNat then
    String.ofList (digits ++ List.replicate (point.toNat - digits.length) '0') ++ style.wholeEnding
  else
    String.ofList (digits.take point.toNat ++ '.' :: digits.drop point.toNat)

/-- Digits with the point after the first one, and the power of ten of that
first digit. -/
def withExponent (digits : List Char) (power : Int) : String :=
  let fraction := digits.drop 1
  let mantissa := if fraction.isEmpty then digits else digits.take 1 ++ '.' :: fraction
  String.ofList mantissa ++ "e" ++ toString power

/-- Whether a number whose first digit has the given power of ten is written
without exponent. -/
def isPlain (style : NumberStyle) (power : Int) : Bool :=
  match style.plainRange with
  | none => true
  | some (least, greatest) => least ≤ power && power ≤ greatest

def decimalText (style : NumberStyle) (d : Decimal) : String :=
  let power := d.pointPosition - 1
  if style.isPlain power then style.plain d.digits d.pointPosition
  else withExponent d.digits power

def signText (negative : Bool) : String := if negative then "-" else ""

/-- The text of a number. A value that is not a number has no sign. -/
def write (style : NumberStyle) (x : Float) : String :=
  match Binary64.parts x with
  | .nan => "NaN"
  | .infinite negative => signText negative ++ "inf"
  | .finite negative significand exponent =>
    signText negative ++
      if significand = 0 then "0" ++ style.wholeEnding
      else style.decimalText (Decimal.shortest significand exponent)

end NumberStyle

namespace Decimal

/-- A whole number of units of `10 ^ (-places)`, written with that many
places and at least one digit before the point. -/
def placesText (places units : Nat) : String :=
  let digits := digitsOf units
  let padded := List.replicate (places + 1 - digits.length) '0' ++ digits
  String.ofList
    (padded.take (padded.length - places) ++ '.' :: padded.drop (padded.length - places))

/-- A number rounded to a fixed number of places. The exact value is rounded,
a half goes to the even neighbour, and the sign stays when nothing else does. -/
def writeFixed (places : Nat) (x : Float) : String :=
  match Binary64.parts x with
  | .nan => "NaN"
  | .infinite negative => NumberStyle.signText negative ++ "inf"
  | .finite negative significand exponent =>
    let units := ((Ratio.scaled significand .two exponent).divPow .ten (-(places : Int))).round
    NumberStyle.signText negative ++ placesText places units

def listingPlaces : Nat := 2

end Decimal

end Calculator
