import Calculator.Token.Basic
import Calculator.Failure
import Calculator.Text.Bytes

/-!
# From text to tokens

A line is scanned from left to right. A word extends as far as its characters
go; gaps between tokens are skipped; every other token is a single character.
The first character that fits nowhere ends the scan, and is reported with the
number of bytes before it in UTF-8.
-/

namespace Calculator.Token

/-- What follows a word is no longer than what follows its first character. -/
theorem length_dropWhile_le (p : Char → Bool) (cs : List Char) :
    (cs.dropWhile p).length ≤ cs.length :=
  (List.dropWhile_suffix p).length_le

/-- The tokens of a text that has a number of bytes before it in its line. -/
def scanFrom (offset : Nat) (cs : List Char) : Except SyntaxFault (List Token) :=
  match cs with
  | [] => .ok []
  | c :: rest =>
    if isWordChar c then
      let word := c :: rest.takeWhile isWordChar
      (scanFrom (offset + Text.byteCount word) (rest.dropWhile isWordChar)).map (ofWord word :: ·)
    else if isGap c then
      scanFrom (offset + c.utf8Size) rest
    else
      match ofSymbol? c with
      | some token => (scanFrom (offset + c.utf8Size) rest).map (token :: ·)
      | none => .error (.unexpectedCharacter c offset)
termination_by cs.length
decreasing_by
  · exact Nat.lt_succ_of_le (length_dropWhile_le isWordChar rest)
  · exact Nat.lt_succ_self rest.length
  · exact Nat.lt_succ_self rest.length

def scan (source : String) : Except SyntaxFault (List Token) :=
  scanFrom 0 source.toList

end Calculator.Token
