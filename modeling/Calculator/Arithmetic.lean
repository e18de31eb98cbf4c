import Calculator.Numeral
import Calculator.Operator

/-!
# Arithmetic

What the evaluator needs to know about values: how numerals read, what a
variable without a value is worth, and what each operator computes. The
evaluator works for any arithmetic; the calculator uses 64-bit binary
floating point.
-/

namespace Calculator

/-- The values of a calculator and what its operators compute. -/
structure Arithmetic (α : Type) where
  /-- The value of a numeral, if the text is one. -/
  read? : String → Option α
  /-- The value of a variable that is not bound. -/
  unbound : α
  /-- The result of an operator on its left and its right operand. -/
  apply : Operator → α → α → α

/-- The result of an operator on 64-bit binary numbers. Division by zero gives
an infinity or a value that is not a number; `%` has the sign of its left
operand and is exact. -/
def Operator.apply : Operator → Float → Float → Float
  | add, x, y => x + y
  | sub, x, y => x - y
  | mul, x, y => x * y
  | div, x, y => x / y
  | rem, x, y => Binary64.remainder x y
  | pow, x, y => Float.pow x y

def Arithmetic.binary64 : Arithmetic Float where
  read? := Numeral.read?
  unbound := Binary64.zero false
  apply := Operator.apply

end Calculator
