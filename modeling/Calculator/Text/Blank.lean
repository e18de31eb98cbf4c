import Calculator.Text.Ranges

/-!
# Blanks

The characters with the Unicode property White_Space, and the removal of them
from both ends of a text.
-/

namespace Calculator.Text

/-- The code points with the property White_Space, as ranges of first and
last. -/
def blankRanges : List (Nat × Nat) :=
  [(0x09, 0x0D), (0x20, 0x20), (0x85, 0x85), (0xA0, 0xA0), (0x1680, 0x1680),
    (0x2000, 0x200A), (0x2028, 0x2029), (0x202F, 0x202F), (0x205F, 0x205F), (0x3000, 0x3000)]

def isBlank (c : Char) : Bool := inRanges blankRanges c

/-- Drops the blanks at both ends. -/
def trimChars (cs : List Char) : List Char :=
  ((cs.dropWhile isBlank).reverse.dropWhile isBlank).reverse

def trim (s : String) : String := String.ofList (trimChars s.toList)

end Calculator.Text
