import Calculator.Session.Command
import Calculator.Token.Scan
import Mathlib.Data.List.TakeWhile

/-!
# A line that is one word

A word at the front of a text is scanned as one token, and a line that is only
a word is neither cut at its ends nor cut in two.

Results:
1. `Text.trim_of_ends`, `Text.exists_trimChars`: what the blanks at the ends of a text are.
2. `Token.scanFrom_word`: a word is one token, up to the first character that is
   not part of it.
3. `Token.scan_word`: a text that is one word.
4. `Command.ofLine_word`: a line that is one word and not the letter of a command.
-/

namespace Calculator

/-- Nothing is taken from a text whose first character does not count. -/
theorem takeWhile_dropWhile_of_head {p : Char → Bool} {cs : List Char}
    (ends : ∀ c ∈ cs.head?, p c = false) : cs.takeWhile p = [] ∧ cs.dropWhile p = cs := by
  cases cs with
  | nil => exact ⟨rfl, rfl⟩
  | cons c cs =>
    have apart : ¬ p c = true := by simp [ends c rfl]
    exact ⟨List.takeWhile_cons_of_neg apart, List.dropWhile_cons_of_neg apart⟩

namespace Text

theorem trimChars_of_ends {cs : List Char} (front : ∀ c ∈ cs.head?, isBlank c = false)
    (back : ∀ c ∈ cs.getLast?, isBlank c = false) : trimChars cs = cs := by
  have backwards := takeWhile_dropWhile_of_head (by rwa [List.head?_reverse])
  unfold trimChars
  rw [(takeWhile_dropWhile_of_head front).2, backwards.2, List.reverse_reverse]

/-- A text without blanks at its ends stays as it is. -/
theorem trim_of_ends {s : String} (front : ∀ c ∈ s.toList.head?, isBlank c = false)
    (back : ∀ c ∈ s.toList.getLast?, isBlank c = false) : trim s = s := by
  unfold trim
  rw [trimChars_of_ends front back, String.ofList_toList]

/-- A text is what is left of it between the blanks that are dropped. -/
theorem exists_trimChars (cs : List Char) :
    ∃ front back, cs = front ++ trimChars cs ++ back ∧
      ∀ c ∈ front ++ back, isBlank c = true := by
  let rest := cs.dropWhile isBlank
  refine ⟨cs.takeWhile isBlank, (rest.reverse.takeWhile isBlank).reverse, ?_, ?_⟩
  · rw [trimChars, List.append_assoc, ← List.reverse_append, List.takeWhile_append_dropWhile,
      List.reverse_reverse, List.takeWhile_append_dropWhile]
  · refine List.forall_mem_append.mpr ⟨fun c => List.mem_takeWhile_imp, fun c member => ?_⟩
    exact List.mem_takeWhile_imp (List.mem_reverse.mp member)

end Text

namespace Token

theorem toNat_of_isDigit {c : Char} (digit : c.isDigit = true) :
    0x30 ≤ c.toNat ∧ c.toNat ≤ 0x39 := by
  obtain ⟨low, high⟩ := Bool.and_eq_true_iff.mp digit
  exact ⟨UInt32.le_iff_toNat_le.mp (of_decide_eq_true low),
    UInt32.le_iff_toNat_le.mp (of_decide_eq_true high)⟩

theorem toNat_of_isAlpha {c : Char} (letter : c.isAlpha = true) :
    (0x41 ≤ c.toNat ∧ c.toNat ≤ 0x5A) ∨ (0x61 ≤ c.toNat ∧ c.toNat ≤ 0x7A) := by
  rcases Bool.or_eq_true_iff.mp letter with upper | lower
  · obtain ⟨low, high⟩ := of_decide_eq_true upper
    exact .inl ⟨UInt32.le_iff_toNat_le.mp low, UInt32.le_iff_toNat_le.mp high⟩
  · obtain ⟨low, high⟩ := Bool.and_eq_true_iff.mp lower
    exact .inr ⟨UInt32.le_iff_toNat_le.mp (of_decide_eq_true low),
      UInt32.le_iff_toNat_le.mp (of_decide_eq_true high)⟩

theorem isAlpha_of_isDigit {c : Char} (digit : c.isDigit = true) : c.isAlpha = false := by
  refine Bool.eq_false_iff.mpr fun letter => ?_
  have bounds := toNat_of_isDigit digit
  rcases toNat_of_isAlpha letter with upper | lower
  · omega
  · omega

theorem isBlank_of_isWordChar {c : Char} (inWord : isWordChar c = true) :
    Text.isBlank c = false := by
  have bounds : c.toNat = 0x2E ∨ (0x30 ≤ c.toNat ∧ c.toNat ≤ 0x39) ∨
      (0x41 ≤ c.toNat ∧ c.toNat ≤ 0x5A) ∨ (0x61 ≤ c.toNat ∧ c.toNat ≤ 0x7A) := by
    rcases Bool.or_eq_true_iff.mp inWord with alphanumeric | point
    · rcases Bool.or_eq_true_iff.mp alphanumeric with letter | digit
      · exact .inr (.inr (toNat_of_isAlpha letter))
      · exact .inr (.inl (toNat_of_isDigit digit))
    · rw [of_decide_eq_true point]
      exact .inl rfl
  simp only [Text.isBlank, Text.inRanges, Text.blankRanges, List.any_cons, List.any_nil,
    Bool.or_false, Bool.or_eq_false_iff, Bool.and_eq_false_iff, decide_eq_false_iff_not]
  omega

/-- A word is scanned as one token, up to the first character that is not part
of it. -/
theorem scanFrom_word (offset : Nat) {word : List Char} (nonempty : word ≠ [])
    (inWord : ∀ c ∈ word, isWordChar c = true) {rest : List Char}
    (ends : ∀ c ∈ rest.head?, isWordChar c = false) :
    scanFrom offset (word ++ rest) =
      (scanFrom (offset + Text.byteCount word) rest).map (ofWord word :: ·) := by
  obtain ⟨c, cs, rfl⟩ := List.exists_cons_of_ne_nil nonempty
  obtain ⟨first, later⟩ := List.forall_mem_cons.mp inWord
  have stops := takeWhile_dropWhile_of_head ends
  rw [List.cons_append, scanFrom, if_pos first]
  simp only [List.takeWhile_append_of_pos later, List.dropWhile_append_of_pos later, stops,
    List.append_nil]

/-- A text that is one word is one token. -/
theorem scan_word {word : String} (nonempty : word.toList ≠ [])
    (inWord : ∀ c ∈ word.toList, isWordChar c = true) :
    scan word = .ok [ofWord word.toList] := by
  have ends : ∀ c ∈ ([] : List Char).head?, isWordChar c = false := by simp
  have whole := scanFrom_word 0 nonempty inWord ends
  rw [List.append_nil] at whole
  rw [scan, whole, scanFrom]
  rfl

end Token

namespace Command

/-- A line without blanks at its ends is evaluated as it is, unless it is the
letter of a command. -/
theorem ofLine_of_trim {line : String} (trimmed : Text.trim line = line)
    (other : line ≠ "h" ∧ line ≠ "q" ∧ line ≠ "l") : ofLine line = .evaluate line := by
  obtain ⟨help, quit, list⟩ := other
  rw [ofLine, trimmed, ofTrimmed, if_neg help, if_neg quit, if_neg list]

/-- A line that is one word is evaluated as it is, unless it is the letter of a
command. -/
theorem ofLine_word {word : String} (inWord : ∀ c ∈ word.toList, Token.isWordChar c = true)
    (other : word ≠ "h" ∧ word ≠ "q" ∧ word ≠ "l") : ofLine word = .evaluate word := by
  have trimmed : Text.trim word = word :=
    Text.trim_of_ends
      (fun c first => Token.isBlank_of_isWordChar (inWord c (List.mem_of_head? first)))
      (fun c last => Token.isBlank_of_isWordChar (inWord c (List.mem_of_getLast? last)))
  exact ofLine_of_trim trimmed other

end Command

end Calculator
