/-!
# Quoted text

A text in double quotes, as log messages show it. Quotes, backslashes and
control characters are escaped. All other characters stand as they are: the
calculator quotes only texts that its tokens are made of, which are ASCII.
-/

namespace Calculator.Text

/-- How one character appears between the quotes. -/
def escape (c : Char) : List Char :=
  if c = '"' ∨ c = '\\' then ['\\', c]
  else if c = '\t' then ['\\', 't']
  else if c = '\r' then ['\\', 'r']
  else if c = '\n' then ['\\', 'n']
  else if c.toNat = 0 then ['\\', '0']
  else if c.toNat < 0x20 ∨ c.toNat = 0x7F then
    "\\u\x7b".toList ++ Nat.toDigits 16 c.toNat ++ ['\x7d']
  else [c]

/-- A text in double quotes. -/
def quoted (s : String) : String :=
  String.ofList ('"' :: (s.toList.flatMap escape ++ ['"']))

end Calculator.Text
