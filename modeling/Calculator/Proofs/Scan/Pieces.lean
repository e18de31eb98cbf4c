import Calculator.Proofs.Scan.Munch
import Mathlib.Data.List.Forall2
import Mathlib.Data.List.SplitBy

/-!
# The pieces of a text

A text falls into its longest words and its other characters, whatever they mean. The
longest matches make one token of each piece that is not a gap, and leave nothing else out:
which token a word becomes is settled only at its end, and no word is cut where a token
could have ended before.

Results:
1. `Token.spells_of_scanFrom`: the tokens of a text are spelled by its pieces.
2. `Token.flatten_pieces`: the pieces are the text without the gaps.
3. `Token.scanFrom_succeeds`: a text of known characters has tokens;
   `Token.scanFrom_unknown`: any other character ends the scan.
4. `scan_pieces`: what the longest matches make of such a text.
-/

namespace Calculator

namespace Token

def symbols : List Char := ['+', '-', '*', '/', '%', '^', '(', ')', '=']

/-- Whether a character can stand in a line. -/
def IsKnown (c : Char) : Prop := isWordChar c = true ∨ c ∈ symbols ∨ isGap c = true

/-- The pieces of a text: each maximal run of word characters, and each other
character by itself unless it is a gap. -/
def pieces (cs : List Char) : List (List Char) :=
  (cs.splitBy fun c d => isWordChar c && isWordChar d).filter fun piece => !piece.all isGap

/-! ## Cutting off a piece -/

theorem pieces_append {piece rest : List Char} (nonempty : piece ≠ [])
    (joined : piece.IsChain fun c d => (isWordChar c && isWordChar d) = true)
    (ends : ∀ c ∈ piece.getLast?, ∀ d ∈ rest.head?, (isWordChar c && isWordChar d) = false) :
    pieces (piece ++ rest) = if piece.all isGap then pieces rest else piece :: pieces rest := by
  unfold pieces
  rw [List.splitBy_append ends, List.splitBy_of_isChain nonempty joined, List.singleton_append,
    List.filter_cons]
  cases piece.all isGap <;> rfl

theorem pieces_word {word rest : List Char} (nonempty : word ≠ [])
    (inWord : ∀ c ∈ word, isWordChar c = true) (ends : ∀ c ∈ rest.head?, isWordChar c = false) :
    pieces (word ++ rest) = word :: pieces rest := by
  have joined : word.IsChain fun c d => (isWordChar c && isWordChar d) = true := by
    refine List.Pairwise.isChain (List.pairwise_of_forall_mem_list ?_)
    intro c first d second
    rw [inWord c first, inWord d second]
    rfl
  have noGap : ¬ word.all isGap = true := by
    obtain ⟨c, member⟩ := List.exists_mem_of_ne_nil word nonempty
    intro gaps
    have gap : isGap c = true := List.all_eq_true.mp gaps c member
    rw [isGap_of_isWordChar (inWord c member)] at gap
    cases gap
  rw [pieces_append nonempty joined fun c _ d next => by rw [ends d next, Bool.and_false],
    if_neg noGap]

theorem pieces_single {c : Char} (apart : isWordChar c = false) (rest : List Char) :
    pieces (c :: rest) = if isGap c then pieces rest else [c] :: pieces rest := by
  have ends : ∀ d ∈ [c].getLast?, ∀ e ∈ rest.head?, (isWordChar d && isWordChar e) = false := by
    intro d last e _
    obtain rfl : c = d := Option.some.inj last
    rw [apart, Bool.false_and]
  have cut := pieces_append (List.cons_ne_nil c []) (List.isChain_singleton c) ends
  rw [List.singleton_append, List.all_cons, List.all_nil, Bool.and_true] at cut
  exact cut

/-- Nothing but gaps is left out, and the order stays. -/
theorem flatten_pieces (cs : List Char) :
    (pieces cs).flatten = cs.filter fun c => !isGap c := by
  induction cs using byWords with
  | nil => rfl
  | word word rest nonempty inWord ends ih =>
    have kept : word.filter (fun c => !isGap c) = word := by
      refine List.filter_eq_self.mpr fun c member => ?_
      rw [isGap_of_isWordChar (inWord c member)]
      rfl
    rw [pieces_word nonempty inWord ends, List.flatten_cons, ih, List.filter_append, kept]
  | single c rest apart ih =>
    rw [pieces_single apart, List.filter_cons]
    cases isGap c with
    | true => exact ih
    | false => exact congrArg (c :: ·) ih

/-! ## Scanning piece by piece -/

/-- The tokens of a text are spelled by its pieces, one by one and in order. -/
theorem spells_of_scanFrom {offset : Nat} {cs : List Char} {tokens : List Token}
    (scanned : scanFrom offset cs = .ok tokens) : List.Forall₂ Spells (pieces cs) tokens := by
  induction cs using byWords generalizing offset tokens with
  | nil =>
    rw [scanFrom] at scanned
    obtain rfl := Except.ok.inj scanned
    exact .nil
  | word word rest nonempty inWord ends ih =>
    rw [scanFrom_word offset nonempty inWord ends] at scanned
    obtain ⟨later, scannedRest, rfl⟩ := map_eq_ok.mp scanned
    rw [pieces_word nonempty inWord ends]
    exact .cons (isWritten_ofWord nonempty inWord) (ih scannedRest)
  | single c rest apart ih =>
    rw [pieces_single apart]
    rcases scanFrom_single offset apart rest with gap | ⟨token, found⟩ | failed
    · rw [scanFrom_gap offset gap] at scanned
      rw [if_pos gap]
      exact ih scanned
    · rw [scanFrom_symbol offset found] at scanned
      obtain ⟨later, scannedRest, rfl⟩ := map_eq_ok.mp scanned
      obtain ⟨same, written, -, noGap⟩ := text_of_ofSymbol? found
      rw [if_neg (by simp [noGap])]
      exact .cons ⟨same, written⟩ (ih scannedRest)
    · rw [failed] at scanned
      cases scanned

theorem flatten_of_spells {words : List (List Char)} {tokens : List Token}
    (spelled : List.Forall₂ Spells words tokens) :
    tokens.flatMap (fun token => token.text.toList) = words.flatten := by
  induction spelled with
  | nil => rfl
  | cons first _ ih => rw [List.flatMap_cons, List.flatten_cons, first.1, ih]

/-! ## Known characters -/

theorem exists_ofSymbol?_of_mem {c : Char} (member : c ∈ symbols) :
    ∃ token, ofSymbol? c = some token := by
  simp only [symbols, List.mem_cons, List.not_mem_nil, or_false] at member
  rcases member with rfl | rfl | rfl | rfl | rfl | rfl | rfl | rfl | rfl <;> exact ⟨_, rfl⟩

theorem mem_symbols_of_ofSymbol? {c : Char} {token : Token} (found : ofSymbol? c = some token) :
    c ∈ symbols := by
  rcases ofSymbol?_eq_some_iff.mp found with
    ⟨rfl, rfl⟩ | ⟨rfl, rfl⟩ | ⟨rfl, rfl⟩ | ⟨op, rfl, rfl⟩
  · decide
  · decide
  · decide
  · cases op <;> decide

theorem isWordChar_of_unknown {c : Char} (unknown : ¬ IsKnown c) : isWordChar c = false :=
  Bool.eq_false_iff.mpr fun inWord => unknown (.inl inWord)

/-- A known character that is not part of a word is scanned by itself. -/
theorem exists_front_of_known {c : Char} (apart : isWordChar c = false) (known : IsKnown c) :
    ∃ front, ∀ offset rest,
      scanFrom offset (c :: rest) = (scanFrom (offset + c.utf8Size) rest).map (front ++ ·) := by
  rcases known with inWord | symbol | gap
  · rw [apart] at inWord
    cases inWord
  · obtain ⟨token, found⟩ := exists_ofSymbol?_of_mem symbol
    exact ⟨[token], fun offset rest => scanFrom_symbol offset found rest⟩
  · refine ⟨[], fun offset rest => ?_⟩
    rw [scanFrom_gap offset gap]
    cases scanFrom (offset + c.utf8Size) rest <;> rfl

/-- An unknown character ends the scan, whatever follows it. -/
theorem scanFrom_unknown {c : Char} (unknown : ¬ IsKnown c) (offset : Nat) (rest : List Char) :
    scanFrom offset (c :: rest) = .error (.unexpectedCharacter c offset) := by
  rcases scanFrom_single offset (isWordChar_of_unknown unknown) rest with
    gap | ⟨token, found⟩ | failed
  · exact absurd (.inr (.inr gap)) unknown
  · exact absurd (.inr (.inl (mem_symbols_of_ofSymbol? found))) unknown
  · exact failed

theorem scanFrom_succeeds (offset : Nat) {cs : List Char} (known : ∀ c ∈ cs, IsKnown c) :
    ∃ tokens, scanFrom offset cs = .ok tokens := by
  induction cs using byWords generalizing offset with
  | nil => exact ⟨[], by rw [scanFrom]⟩
  | word word rest nonempty inWord ends ih =>
    obtain ⟨-, later⟩ := List.forall_mem_append.mp known
    obtain ⟨tokens, scanned⟩ := ih (offset + Text.byteCount word) later
    refine ⟨ofWord word :: tokens, ?_⟩
    rw [scanFrom_word offset nonempty inWord ends, scanned]
    rfl
  | single c rest apart ih =>
    obtain ⟨first, later⟩ := List.forall_mem_cons.mp known
    obtain ⟨tokens, scanned⟩ := ih (offset + c.utf8Size) later
    obtain ⟨front, cut⟩ := exists_front_of_known apart first
    refine ⟨front ++ tokens, ?_⟩
    rw [cut, scanned]
    rfl

end Token

/-- The longest matches make tokens of a text of known characters, and the scan gives the
same tokens: one for each piece of the text and no others. A maximal run of word characters
is a number if it has no letter and an identifier if it has one, however late; a symbol is
the token of that symbol. No other tokens are spelled by the pieces, and together the tokens
are the text without its gaps. -/
theorem scan_pieces {source : String} (known : ∀ c ∈ source.toList, Token.IsKnown c) :
    ∃ tokens, (∀ outcome, Token.Munches 0 source.toList outcome ↔ outcome = .ok tokens) ∧
      Token.scan source = .ok tokens ∧ .ignored ∉ tokens ∧
      String.join (tokens.map Token.text) =
        String.ofList (source.toList.filter fun c => !Token.isGap c) ∧
      List.Forall₂ Token.Spells (Token.pieces source.toList) tokens ∧
      ∀ other, List.Forall₂ Token.Spells (Token.pieces source.toList) other → other = tokens := by
  obtain ⟨tokens, scanned⟩ := Token.scanFrom_succeeds 0 known
  have spelled : List.Forall₂ Token.Spells (Token.pieces source.toList) tokens :=
    Token.spells_of_scanFrom scanned
  have unique : Relator.RightUnique Token.Spells := fun _ _ _ => Token.Spells.unique
  refine ⟨tokens, fun outcome => ?_, scanned, ?_, ?_, spelled, fun other again => ?_⟩
  · rw [Token.munches_iff, scanned]
  · exact Token.isWritten_of_scanFrom scanned .ignored
  · rw [← Token.flatten_pieces, ← Token.flatten_of_spells spelled, ← String.toList_inj,
      String.toList_join, String.toList_ofList, List.flatMap_map]
  · exact List.right_unique_forall₂' unique again spelled

/-- At the front of `12.3.4x` a number is matched as well as a name. The longest matches make
one name of it, and four pieces of the text around it. -/
theorem scan_pieces_late_letter :
    let source := "(12.3.4x\t^ .5"
    let tokens : List Token := [.opening, .identifier "12.3.4x", .operator .pow, .number ".5"]
    (∀ c ∈ source.toList, Token.IsKnown c) ∧
      "12.3.4".toList ∈ Token.Pattern.number.language ∧
      Token.Munches 0 source.toList (.ok tokens) ∧ Token.scan source = .ok tokens := by
  intro source tokens
  have known : ∀ c ∈ source.toList, Token.IsKnown c := by
    simp [source, Token.IsKnown, Token.isWordChar, Token.symbols, Token.isGap]
  have shorter : "12.3.4".toList ∈ Token.Pattern.number.language :=
    Token.Pattern.mem_number.mpr (by simp)
  obtain ⟨found, rule, scanned, -, -, -, only⟩ := scan_pieces known
  have cut : Token.pieces source.toList =
      [['('], ['1', '2', '.', '3', '.', '4', 'x'], ['^'], ['.', '5']] := by decide +kernel
  have spelled : List.Forall₂ Token.Spells (Token.pieces source.toList) tokens := by
    simp [cut, tokens, Token.Spells, Token.IsWritten, Token.isWordChar, Token.text, Operator.text,
      Operator.symbol]
  obtain rfl : tokens = found := only tokens spelled
  exact ⟨known, shorter, (rule _).mpr rfl, scanned⟩

end Calculator
