import Calculator.Failure
import Calculator.Token.Basic

/-!
# Statements

A line is an expression, or an assignment: a variable, an equals sign and an
expression. The first equals sign decides. It must be the second token, and no
other one may follow; the token before it must be a variable's name.
-/

namespace Calculator

/-- The form of a line: the variable it assigns to, if any, and the position
of the first token of its expression. -/
structure Statement where
  target : Option String
  start : Nat
  deriving DecidableEq, Repr

namespace Statement

/-- The positions of the equals signs in a line, counted from a given number. -/
def equalsFrom (position : Nat) : List Token → List Nat
  | [] => []
  | token :: tokens =>
    if token = .equals then position :: equalsFrom (position + 1) tokens
    else equalsFrom (position + 1) tokens

/-- The variable that a token names, if it can be assigned to. -/
def target? : Token → Option String
  | .identifier name => if Token.isVariableName name then some name else none
  | _ => none

def ofTokens? (tokens : List Token) : Except SyntaxFault Statement :=
  match equalsFrom 0 tokens, tokens with
  | [], _ => .ok ⟨none, 0⟩
  | 1 :: second :: _, _ => .error (.misplacedEquals second)
  | [1], token :: _ =>
    match target? token with
    | some name => .ok ⟨some name, 2⟩
    | none => .error (.invalidTarget token.text)
  | first :: _, _ => .error (.misplacedEquals first)

end Statement

end Calculator
