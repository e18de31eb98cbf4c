import Calculator.Operator

/-!
# Tokens

The units of a line. Digits, points and letters that stand together form one
word. A word without letters is a number, whether or not it is the text of
one; any other word is an identifier.
-/

namespace Calculator

/-- A unit of a line. -/
inductive Token
  | number (text : String)
  | identifier (text : String)
  | operator (op : Operator)
  | opening
  | closing
  | equals
  /-- Takes up a place in the line and means nothing. No text contains it. -/
  | ignored
  deriving DecidableEq, Repr

namespace Token

def text : Token → String
  | number text | identifier text => text
  | operator op => op.text
  | opening => "("
  | closing => ")"
  | equals => "="
  | ignored => ""

/-- The texts of tokens with one space between neighbours. -/
def joined (tokens : List Token) : String :=
  String.intercalate " " (tokens.map text)

/-- Whether a character belongs to words. -/
def isWordChar (c : Char) : Bool := c.isAlphanum || c = '.'

/-- Whether a character separates tokens and means nothing else: space, tab,
line feed, carriage return and form feed. -/
def isGap (c : Char) : Bool :=
  c = ' ' || c = '\t' || c = '\n' || c = '\r' || c = '\x0c'

def ofWord (word : List Char) : Token :=
  if word.any Char.isAlpha then identifier (String.ofList word)
  else number (String.ofList word)

/-- The token that a single character stands for, if it is not part of a
word. -/
def ofSymbol? : Char → Option Token
  | '(' => some opening
  | ')' => some closing
  | '=' => some equals
  | c => (Operator.ofSymbol? c).map operator

/-- Whether a text can name a variable that is assigned to: one or more ASCII
letters and nothing else. -/
def isVariableName (name : String) : Bool :=
  !name.toList.isEmpty && name.toList.all Char.isAlpha

end Token

end Calculator
