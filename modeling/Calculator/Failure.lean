/-!
# Failures

The reasons why a line has no value, and the wording of each.

A line can be malformed: the text, or the order of its tokens, is wrong. Or
its operators and operands do not reduce to exactly one value.
-/

namespace Calculator

/-- What is wrong with the text of a line or the order of its tokens. -/
inductive SyntaxFault
  /-- A character that no token starts with, and the number of bytes before it. -/
  | unexpectedCharacter (found : Char) (offset : Nat)
  | malformedNumber (text : String)
  | misplacedEquals (position : Nat)
  | invalidTarget (text : String)
  | unmatchedClosing
  | unmatchedOpening
  deriving DecidableEq, Repr

/-- Why operators and operands do not reduce to one value. -/
inductive ReductionFault
  | missingOperand
  | residualOperands (count : Nat)
  deriving DecidableEq, Repr

/-- Why a line has no value. -/
inductive Failure
  | malformed (fault : SyntaxFault)
  | irreducible (fault : ReductionFault)
  deriving DecidableEq, Repr

def SyntaxFault.message : SyntaxFault → String
  | unexpectedCharacter found offset =>
    "Unexpected token '" ++ found.toString ++ "' at offset " ++ toString offset ++ "."
  | malformedNumber text => "Malformed number '" ++ text ++ "'."
  | misplacedEquals position =>
    "Unexpected '=' at token " ++ toString position ++ ". Assignments look like: x = 1 + 2"
  | invalidTarget text =>
    "Cannot assign to '" ++ text ++ "'. Variable names may only contain letters."
  | unmatchedClosing => "Found closing parenthesis ')' without a matching '('."
  | unmatchedOpening => "Expected closing parenthesis ')' but none found."

def ReductionFault.message : ReductionFault → String
  | missingOperand => "Missing operand or operator."
  | residualOperands count =>
    "Expression left " ++ toString count ++ " values instead of one. Is an operator missing?"

def Failure.message : Failure → String
  | malformed fault => fault.message
  | irreducible fault => fault.message

end Calculator
