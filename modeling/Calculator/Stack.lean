/-!
# Stacks

A last-in, first-out stack is a list whose head is the top. The evaluator
holds its operands and its waiting operators on two of them.
-/

namespace Calculator

/-- A stack. The head of the list is the top. -/
abbrev Stack (α : Type) := List α

namespace Stack

variable {α : Type}

def empty : Stack α := []

def push (s : Stack α) (a : α) : Stack α := a :: s

/-- The top element and the stack below it, or nothing when there is no top. -/
def pop? : Stack α → Option (α × Stack α)
  | [] => none
  | a :: s => some (a, s)

def top? (s : Stack α) : Option α := s.head?

def clear (_ : Stack α) : Stack α := empty

end Stack

end Calculator
