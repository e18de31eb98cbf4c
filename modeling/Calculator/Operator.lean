/-!
# Operators

The six binary operators of the calculator, the character each one is written
as, and the level at which each one binds.

Levels order the operators by how tightly they bind: `+` and `-` at level 0,
`*`, `/` and `%` at level 1, `^` at level 2. `^` groups to the right, all
others to the left.
-/

namespace Calculator

inductive Operator
  | add
  | sub
  | mul
  | div
  | rem
  | pow
  deriving DecidableEq, Repr

namespace Operator

def symbol : Operator → Char
  | add => '+'
  | sub => '-'
  | mul => '*'
  | div => '/'
  | rem => '%'
  | pow => '^'

/-- The operator that a character stands for, if any. -/
def ofSymbol? : Char → Option Operator
  | '+' => some add
  | '-' => some sub
  | '*' => some mul
  | '/' => some div
  | '%' => some rem
  | '^' => some pow
  | _ => none

def text (op : Operator) : String :=
  op.symbol.toString

def isAdditive : Operator → Bool
  | add | sub => true
  | _ => false

def isMultiplicative : Operator → Bool
  | mul | div | rem => true
  | _ => false

/-- How tightly an operator binds. -/
def level : Operator → Nat
  | add | sub => 0
  | mul | div | rem => 1
  | pow => 2

theorem ofSymbol?_symbol (op : Operator) : ofSymbol? op.symbol = some op := by
  cases op <;> rfl

theorem ofSymbol?_eq_some_iff {c : Char} {op : Operator} :
    ofSymbol? c = some op ↔ c = op.symbol := by
  constructor
  · intro h
    unfold ofSymbol? at h
    split at h <;> cases h <;> rfl
  · rintro rfl
    exact ofSymbol?_symbol op

theorem isAdditive_iff_level (op : Operator) : op.isAdditive = true ↔ op.level = 0 := by
  cases op <;> simp [isAdditive, level]

theorem isMultiplicative_iff_level (op : Operator) :
    op.isMultiplicative = true ↔ op.level = 1 := by
  cases op <;> simp [isMultiplicative, level]

end Operator

end Calculator
