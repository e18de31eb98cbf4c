import Calculator.Decimal.Basic

/-!
# Reading numbers

The grammar of a number's text is strict: an optional sign, then either
digits with an optional point, at least one digit in all, and an optional
exponent, or one of the words `inf`, `infinity` and `nan` in any case. Nothing
may stand before, between or after.
-/

namespace Calculator

/-- What the text of a number says. -/
inductive Numeral
  | nan
  | infinite (negative : Bool)
  | decimal (negative : Bool) (value : Decimal)
  deriving DecidableEq, Repr

namespace Numeral

def digitsValue (cs : List Char) : Nat :=
  cs.foldl (fun n c => 10 * n + (c.toNat - '0'.toNat)) 0

/-- Takes an optional sign off. The flag says whether it was a minus. -/
def splitSign : List Char → Bool × List Char
  | '-' :: cs => (true, cs)
  | '+' :: cs => (false, cs)
  | cs => (false, cs)

/-- Takes the leading digits off. -/
def splitDigits (cs : List Char) : List Char × List Char :=
  (cs.takeWhile Char.isDigit, cs.dropWhile Char.isDigit)

/-- Takes a point and the digits after it off, if a point comes first. -/
def splitFraction : List Char → List Char × List Char
  | '.' :: cs => splitDigits cs
  | cs => ([], cs)

/-- Reads an exponent that takes up the whole text. No text is exponent 0. -/
def exponent? : List Char → Option Int
  | [] => some 0
  | c :: cs =>
    if c = 'e' ∨ c = 'E' then
      let (negative, digits) := splitSign cs
      if digits.isEmpty || !digits.all Char.isDigit then none
      else some (if negative then -(digitsValue digits : Int) else digitsValue digits)
    else none

/-- Reads a decimal without sign that takes up the whole text. -/
def decimal? (cs : List Char) : Option Decimal :=
  let (whole, rest) := splitDigits cs
  let (fraction, rest) := splitFraction rest
  if whole.isEmpty && fraction.isEmpty then none
  else (exponent? rest).map fun e => ⟨digitsValue (whole ++ fraction), e - fraction.length⟩

/-- Reads a number that takes up the whole text. -/
def ofChars? (cs : List Char) : Option Numeral :=
  let (negative, body) := splitSign cs
  let word := String.ofList (body.map Char.toLower)
  if word = "nan" then some .nan
  else if word = "inf" ∨ word = "infinity" then some (.infinite negative)
  else (decimal? body).map (.decimal negative)

def toFloat : Numeral → Float
  | nan => Binary64.nan
  | infinite negative => Binary64.infinity negative
  | decimal negative d => d.toFloat negative

def read? (text : String) : Option Float :=
  (ofChars? text.toList).map toFloat

end Numeral

end Calculator
