import Calculator.Proofs.Scan.Word

/-!
# Tokens as they are written

The text of a token and the scan are defined apart from each other. Here they
are put together: what a token looks like in a text, and that it is read back
from there.

Results:
1. `Token.byWords`: induction on a text by its words and its other characters.
2. `Token.isWritten_of_scanFrom`: a text has only tokens that can be written.
3. `Token.scanFrom_text`: such a token is read back from its text.
4. `scan_joined`: a line of such tokens is read back, and so is what any text is
   scanned to.
-/

namespace Calculator

namespace Token

/-- Whether a token can be written. A number is made of digits and points, an
identifier has a letter as well, and a symbol is written as itself. -/
def IsWritten : Token → Prop
  | number text => text.toList ≠ [] ∧ ∀ c ∈ text.toList, c.isDigit = true ∨ c = '.'
  | identifier text =>
    (∀ c ∈ text.toList, isWordChar c = true) ∧ ∃ c ∈ text.toList, c.isAlpha = true
  | operator _ | opening | closing | equals => True
  | ignored => False

/-! ## One character -/

theorem isWordChar_of_isGap {c : Char} (gap : isGap c = true) : isWordChar c = false := by
  simp only [isGap, Bool.or_eq_true, decide_eq_true_eq] at gap
  rcases gap with (((rfl | rfl) | rfl) | rfl) | rfl <;> decide

theorem isGap_of_isWordChar {c : Char} (inWord : isWordChar c = true) : isGap c = false := by
  cases gap : isGap c with
  | false => rfl
  | true =>
    rw [isWordChar_of_isGap gap] at inWord
    cases inWord

theorem ofSymbol?_eq_some_iff {c : Char} {token : Token} :
    ofSymbol? c = some token ↔
      (token = opening ∧ c = '(') ∨ (token = closing ∧ c = ')') ∨ (token = equals ∧ c = '=') ∨
        ∃ op, token = operator op ∧ c = op.symbol := by
  constructor
  · intro found
    unfold ofSymbol? at found
    split at found
    · exact .inl ⟨(Option.some.inj found).symm, rfl⟩
    · exact .inr (.inl ⟨(Option.some.inj found).symm, rfl⟩)
    · exact .inr (.inr (.inl ⟨(Option.some.inj found).symm, rfl⟩))
    · obtain ⟨op, known, rfl⟩ := Option.map_eq_some_iff.mp found
      exact .inr (.inr (.inr ⟨op, rfl, Operator.ofSymbol?_eq_some_iff.mp known⟩))
  · rintro (⟨rfl, rfl⟩ | ⟨rfl, rfl⟩ | ⟨rfl, rfl⟩ | ⟨op, rfl, rfl⟩)
    · rfl
    · rfl
    · rfl
    · cases op <;> rfl

/-- A symbol is the text of its token, and neither a part of a word nor a gap. -/
theorem text_of_ofSymbol? {c : Char} {token : Token} (found : ofSymbol? c = some token) :
    token.text.toList = [c] ∧ token.IsWritten ∧ isWordChar c = false ∧ isGap c = false := by
  rcases ofSymbol?_eq_some_iff.mp found with
    ⟨rfl, rfl⟩ | ⟨rfl, rfl⟩ | ⟨rfl, rfl⟩ | ⟨op, rfl, rfl⟩
  · exact ⟨rfl, trivial, by decide, by decide⟩
  · exact ⟨rfl, trivial, by decide, by decide⟩
  · exact ⟨rfl, trivial, by decide, by decide⟩
  · refine ⟨by simp [text, Operator.text], trivial, ?_, ?_⟩
    · cases op <;> decide
    · cases op <;> decide

theorem scanFrom_gap (offset : Nat) {c : Char} (gap : isGap c = true) (rest : List Char) :
    scanFrom offset (c :: rest) = scanFrom (offset + c.utf8Size) rest := by
  have apart : ¬ isWordChar c = true := by simp [isWordChar_of_isGap gap]
  rw [scanFrom, if_neg apart, if_pos gap]

theorem scanFrom_gap_append (offset : Nat) {gap : List Char} (blank : ∀ c ∈ gap, isGap c = true)
    (rest : List Char) :
    scanFrom offset (gap ++ rest) = scanFrom (offset + Text.byteCount gap) rest := by
  induction gap generalizing offset with
  | nil => rfl
  | cons c gap ih =>
    obtain ⟨first, later⟩ := List.forall_mem_cons.mp blank
    rw [List.cons_append, scanFrom_gap offset first, ih _ later, Text.byteCount_cons,
      Nat.add_assoc]

theorem scanFrom_symbol (offset : Nat) {c : Char} {token : Token}
    (found : ofSymbol? c = some token) (rest : List Char) :
    scanFrom offset (c :: rest) =
      (scanFrom (offset + c.utf8Size) rest).map (token :: ·) := by
  obtain ⟨-, -, noWord, noGap⟩ := text_of_ofSymbol? found
  rw [scanFrom, if_neg (by simp [noWord]), if_neg (by simp [noGap]), found]

/-! ## Words -/

theorem isWordChar_of_numeral {c : Char} (digitOrPoint : c.isDigit = true ∨ c = '.') :
    isWordChar c = true ∧ c.isAlpha = false := by
  rcases digitOrPoint with digit | rfl
  · exact ⟨by simp [isWordChar, Char.isAlphanum, digit], isAlpha_of_isDigit digit⟩
  · decide

theorem numeral_of_isWordChar {c : Char} (inWord : isWordChar c = true)
    (noLetter : c.isAlpha = false) : c.isDigit = true ∨ c = '.' := by
  simpa [isWordChar, Char.isAlphanum, noLetter] using inWord

/-- The token of a word has the text of the word and the class of its text. -/
theorem isWritten_ofWord {word : List Char} (nonempty : word ≠ [])
    (inWord : ∀ c ∈ word, isWordChar c = true) :
    (ofWord word).text.toList = word ∧ (ofWord word).IsWritten := by
  unfold ofWord
  split
  · next letter =>
    refine ⟨String.toList_ofList, ?_⟩
    rw [IsWritten, String.toList_ofList]
    exact ⟨inWord, List.any_eq_true.mp letter⟩
  · next none =>
    refine ⟨String.toList_ofList, ?_⟩
    rw [IsWritten, String.toList_ofList]
    refine ⟨nonempty, fun c member => numeral_of_isWordChar (inWord c member) ?_⟩
    rw [List.any_eq_true, not_exists] at none
    exact Bool.eq_false_iff.mpr fun letter => none c ⟨member, letter⟩

/-- A run of characters of one class at the front of a text, up to the first character that
is not of the class. -/
theorem exists_run {p : Char → Bool} {c : Char} (first : p c = true) (cs : List Char) :
    ∃ run rest, c :: cs = run ++ rest ∧ run ≠ [] ∧ (∀ d ∈ run, p d = true) ∧
      (∀ d ∈ rest.head?, p d = false) ∧ rest.length ≤ cs.length := by
  refine ⟨c :: cs.takeWhile p, cs.dropWhile p, ?_, List.cons_ne_nil _ _, ?_, ?_,
    length_dropWhile_le p cs⟩
  · rw [List.cons_append, List.takeWhile_append_dropWhile]
  · exact List.forall_mem_cons.mpr ⟨first, fun d => List.mem_takeWhile_imp⟩
  · intro d next
    have stays := List.head?_dropWhile_not p cs
    rw [Option.mem_def.mp next] at stays
    exact stays

/-- Induction on a text by its words and its other characters. -/
@[elab_as_elim]
theorem byWords {motive : List Char → Prop} (nil : motive [])
    (word : ∀ word rest, word ≠ [] → (∀ c ∈ word, isWordChar c = true) →
      (∀ c ∈ rest.head?, isWordChar c = false) → motive rest → motive (word ++ rest))
    (single : ∀ c rest, isWordChar c = false → motive rest → motive (c :: rest))
    (cs : List Char) : motive cs := by
  match cs with
  | [] => exact nil
  | c :: cs =>
    cases first : isWordChar c with
    | false => exact single c cs first (byWords nil word single cs)
    | true =>
      obtain ⟨run, rest, split, nonempty, inWord, ends, shorter⟩ := exists_run first cs
      rw [split]
      exact word run rest nonempty inWord ends (byWords nil word single rest)
termination_by cs.length
decreasing_by
  · exact Nat.lt_succ_self cs.length
  · exact Nat.lt_succ_of_le shorter

/-! ## Reading back -/

/-- A character that is not part of a word is a gap, a symbol or a failure. -/
theorem scanFrom_single (offset : Nat) {c : Char} (apart : isWordChar c = false)
    (rest : List Char) :
    isGap c = true ∨ (∃ token, ofSymbol? c = some token) ∨
      scanFrom offset (c :: rest) = .error (.unexpectedCharacter c offset) := by
  by_cases gap : isGap c = true
  · exact .inl gap
  · cases found : ofSymbol? c with
    | some token => exact .inr (.inl ⟨token, rfl⟩)
    | none =>
      refine .inr (.inr ?_)
      rw [scanFrom, if_neg (by simp [apart]), if_neg gap, found]

theorem map_eq_ok {ε β γ : Type} {x : Except ε β} {f : β → γ} {c : γ} :
    x.map f = .ok c ↔ ∃ b, x = .ok b ∧ f b = c := by
  cases x <;> simp [Except.map]

/-- A text has only tokens that can be written. -/
theorem isWritten_of_scanFrom {offset : Nat} {cs : List Char} {tokens : List Token}
    (scanned : scanFrom offset cs = .ok tokens) : ∀ token ∈ tokens, token.IsWritten := by
  induction cs using byWords generalizing offset tokens with
  | nil =>
    rw [scanFrom] at scanned
    obtain rfl := Except.ok.inj scanned
    exact fun _ member => absurd member List.not_mem_nil
  | word word rest nonempty inWord ends ih =>
    rw [scanFrom_word offset nonempty inWord ends] at scanned
    obtain ⟨later, rest, rfl⟩ := map_eq_ok.mp scanned
    exact List.forall_mem_cons.mpr ⟨(isWritten_ofWord nonempty inWord).2, ih rest⟩
  | single c rest apart ih =>
    rcases scanFrom_single offset apart rest with gap | ⟨token, found⟩ | failed
    · rw [scanFrom_gap offset gap] at scanned
      exact ih scanned
    · rw [scanFrom_symbol offset found] at scanned
      obtain ⟨later, rest, rfl⟩ := map_eq_ok.mp scanned
      exact List.forall_mem_cons.mpr ⟨(text_of_ofSymbol? found).2.1, ih rest⟩
    · rw [failed] at scanned
      cases scanned

/-- A token that can be written is that of a symbol or that of a word. -/
theorem IsWritten.cases {token : Token} (written : token.IsWritten) :
    (∃ c, ofSymbol? c = some token) ∨
      (token.text.toList ≠ [] ∧ (∀ c ∈ token.text.toList, isWordChar c = true) ∧
        ofWord token.text.toList = token) := by
  cases token with
  | number text =>
    obtain ⟨nonempty, numerals⟩ := written
    have noLetter : ¬ text.toList.any Char.isAlpha = true := by
      rw [List.any_eq_true]
      rintro ⟨c, member, letter⟩
      rw [(isWordChar_of_numeral (numerals c member)).2] at letter
      cases letter
    refine .inr ⟨nonempty, fun c member => (isWordChar_of_numeral (numerals c member)).1, ?_⟩
    rw [Token.text, ofWord, if_neg noLetter, String.ofList_toList]
  | identifier text =>
    obtain ⟨inWord, letter⟩ := written
    have nonempty : text.toList ≠ [] := by
      obtain ⟨c, member, -⟩ := letter
      exact List.ne_nil_of_mem member
    refine .inr ⟨nonempty, inWord, ?_⟩
    rw [Token.text, ofWord, if_pos (List.any_eq_true.mpr letter), String.ofList_toList]
  | operator op => exact .inl ⟨op.symbol, ofSymbol?_eq_some_iff.mpr (by simp)⟩
  | opening => exact .inl ⟨'(', rfl⟩
  | closing => exact .inl ⟨')', rfl⟩
  | equals => exact .inl ⟨'=', rfl⟩
  | ignored => exact written.elim

/-- A piece is the text of a token, and the class of the token is that of the
text. -/
def Spells (piece : List Char) (token : Token) : Prop :=
  token.text.toList = piece ∧ token.IsWritten

/-- Only the token of a symbol is written as the symbol. -/
theorem eq_of_text_symbol {c : Char} {token other : Token} (found : ofSymbol? c = some token)
    (written : other.IsWritten) (same : other.text.toList = [c]) : other = token := by
  obtain ⟨-, -, noWord, -⟩ := text_of_ofSymbol? found
  rcases written.cases with ⟨d, foundOther⟩ | ⟨-, inWord, -⟩
  · obtain ⟨symbol, -⟩ := text_of_ofSymbol? foundOther
    rw [symbol] at same
    rw [(List.cons.inj same).1, found] at foundOther
    exact (Option.some.inj foundOther).symm
  · rw [same] at inWord
    rw [inWord c (List.mem_singleton_self c)] at noWord
    cases noWord

/-- A piece spells one token at most. -/
theorem Spells.unique {piece : List Char} {token other : Token} (spelled : Spells piece token)
    (again : Spells piece other) : token = other := by
  obtain ⟨rfl, written⟩ := spelled
  obtain ⟨same, writtenOther⟩ := again
  rcases written.cases with ⟨c, found⟩ | ⟨-, -, word⟩
  · exact (eq_of_text_symbol found writtenOther
      (same.trans (text_of_ofSymbol? found).1)).symm
  · rcases writtenOther.cases with ⟨c, found⟩ | ⟨-, -, wordOther⟩
    · exact eq_of_text_symbol found written (same.symm.trans (text_of_ofSymbol? found).1)
    · rw [← word, ← wordOther, same]

/-- A token that can be written is read back from its text, where no word goes on
after it. -/
theorem scanFrom_text (offset : Nat) {token : Token} (written : token.IsWritten)
    {rest : List Char} (ends : ∀ c ∈ rest.head?, isWordChar c = false) :
    scanFrom offset (token.text.toList ++ rest) =
      (scanFrom (offset + Text.byteCount token.text.toList) rest).map (token :: ·) := by
  rcases written.cases with ⟨c, found⟩ | ⟨nonempty, inWord, same⟩
  · rw [(text_of_ofSymbol? found).1]
    exact scanFrom_symbol offset found rest
  · rw [scanFrom_word offset nonempty inWord ends, same]

/-- Tokens with one space between neighbours are read back. -/
theorem scanFrom_joined (offset : Nat) {tokens : List Token}
    (written : ∀ token ∈ tokens, token.IsWritten) :
    scanFrom offset ([' '].intercalate (tokens.map fun token => token.text.toList)) =
      .ok tokens := by
  induction tokens generalizing offset with
  | nil =>
    rw [List.map_nil, List.intercalate_nil, scanFrom]
  | cons token tokens ih =>
    obtain ⟨first, later⟩ := List.forall_mem_cons.mp written
    cases tokens with
    | nil =>
      have last : scanFrom offset (token.text.toList ++ []) = _ :=
        scanFrom_text offset first (by simp)
      rw [List.append_nil] at last
      rw [List.map_cons, List.map_nil, List.intercalate_singleton, last, scanFrom]
      rfl
    | cons next tokens =>
      have space : isWordChar ' ' = false := by decide
      have rest := ih (offset + Text.byteCount token.text.toList + ' '.utf8Size) later
      rw [List.map_cons] at rest
      rw [List.map_cons, List.map_cons, List.intercalate_cons_cons, List.append_assoc,
        List.singleton_append, scanFrom_text offset first (by simp [space]),
        scanFrom_gap _ (by decide), rest]
      rfl

end Token

/-- Tokens that can be written, with one space between neighbours, are scanned to
themselves. This includes the tokens of any text. -/
theorem scan_joined :
    (∀ tokens : List Token, (∀ token ∈ tokens, token.IsWritten) →
        Token.scan (Token.joined tokens) = .ok tokens) ∧
      ∀ (source : String) (tokens : List Token), Token.scan source = .ok tokens →
        Token.scan (Token.joined tokens) = .ok tokens := by
  have readBack : ∀ tokens : List Token, (∀ token ∈ tokens, token.IsWritten) →
      Token.scan (Token.joined tokens) = .ok tokens := by
    intro tokens written
    have chars : (Token.joined tokens).toList =
        [' '].intercalate (tokens.map fun token => token.text.toList) := by
      rw [Token.joined, String.toList_intercalate, List.map_map]
      rfl
    rw [Token.scan, chars, Token.scanFrom_joined 0 written]
  refine ⟨readBack, ?_⟩
  intro source tokens scanned
  exact readBack tokens (Token.isWritten_of_scanFrom scanned)

/-- A number that is none, a name that begins like a number and neighbours that
would run together: all are read back. -/
theorem scan_joined_words :
    let tokens : List Token := [.number "1.2.3", .number ".", .identifier "4x.", .identifier "e",
      .operator .rem, .closing]
    (∀ token ∈ tokens, token.IsWritten) ∧ Token.scan "1.2.3 . 4x. e % )" = .ok tokens := by
  intro tokens
  have written : ∀ token ∈ tokens, token.IsWritten := by
    simp [tokens, Token.IsWritten, Token.isWordChar]
  exact ⟨written, scan_joined.1 tokens written⟩

end Calculator
