/-!
# Bytes of a text

How many bytes the characters of a text take up in UTF-8, and which characters
a number of bytes makes up.
-/

namespace Calculator.Text

/-- The number of bytes of a text in UTF-8. -/
def byteCount : List Char → Nat
  | [] => 0
  | c :: cs => c.utf8Size + byteCount cs

/-- Drops the characters at the front that take up a number of bytes, unless
the last of these bytes lies inside a character or past the end. -/
def dropBytes? (n : Nat) (cs : List Char) : Option (List Char) :=
  if n = 0 then some cs
  else
    match cs with
    | [] => none
    | c :: rest => if c.utf8Size ≤ n then dropBytes? (n - c.utf8Size) rest else none

theorem byteCount_cons (c : Char) (cs : List Char) :
    byteCount (c :: cs) = c.utf8Size + byteCount cs := rfl

theorem byteCount_append (cs rest : List Char) :
    byteCount (cs ++ rest) = byteCount cs + byteCount rest := by
  induction cs with
  | nil => exact (Nat.zero_add _).symm
  | cons c cs ih => rw [List.cons_append, byteCount_cons, ih, byteCount_cons, Nat.add_assoc]

theorem utf8ByteSize_ofList (cs : List Char) :
    (String.ofList cs).utf8ByteSize = byteCount cs := by
  induction cs with
  | nil => rfl
  | cons c cs ih =>
    have split : String.ofList (c :: cs) = String.singleton c ++ String.ofList cs := by simp
    rw [split, String.utf8ByteSize_append, String.utf8ByteSize_singleton, ih, byteCount_cons]

theorem byteCount_toList (s : String) : byteCount s.toList = s.utf8ByteSize := by
  rw [← utf8ByteSize_ofList, String.ofList_toList]

end Calculator.Text
