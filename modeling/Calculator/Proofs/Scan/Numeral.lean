import Calculator.Proofs.Failure.Grounds
import Calculator.Proofs.Scan.Pieces

/-!
# Numbers and numerals

The scan takes any word without letters for a number. The grammar of numerals is
another one: it knows signs, exponents and the words `inf` and `nan`, and wants a digit
and no second point. On the words that both can see they differ in the last two only,
and a word with a letter never gets to the grammar, even if it is the text of a number.

Results:
1. `Numeral.decimal?_isSome_iff`, `Numeral.read?_isSome_iff`: which words of digits and
   points are numerals.
2. `Token.eq_ofWord_of_spells`: the token of a piece with a word character in it.
3. `Evaluator.readable_of_value`: the numbers of a line that has a value.
4. `evaluate_numerals`: what the numbers of a text are read as.
-/

namespace Calculator

open Line

namespace Numeral

/-- A word of digits and points that is not the text of a number: it has no digit, or
more than one point. -/
def IsFaulty (word : List Char) : Prop :=
  (∀ c ∈ word, c.isDigit = true ∨ c = '.') ∧
    ((∀ c ∈ word, c.isDigit = false) ∨ 2 ≤ word.count '.')

/-! ## Where the points are -/

theorem splitDigits_append {digits rest : List Char} (all : ∀ c ∈ digits, c.isDigit = true)
    (ends : ∀ c ∈ rest.head?, c.isDigit = false) :
    splitDigits (digits ++ rest) = (digits, rest) := by
  have stops := takeWhile_dropWhile_of_head ends
  rw [splitDigits, List.takeWhile_append_of_pos all, List.dropWhile_append_of_pos all, stops.1,
    stops.2, List.append_nil]

theorem splitDigits_self {digits : List Char} (all : ∀ c ∈ digits, c.isDigit = true) :
    splitDigits digits = (digits, []) := by
  have whole : splitDigits (digits ++ []) = _ := splitDigits_append all (by simp)
  rwa [List.append_nil] at whole

theorem splitDigits_point {digits : List Char} (all : ∀ c ∈ digits, c.isDigit = true)
    (rest : List Char) : splitDigits (digits ++ '.' :: rest) = (digits, '.' :: rest) := by
  refine splitDigits_append all ?_
  rintro _ ⟨⟩
  rfl

/-- A word of digits and points is digits, or digits up to its first point. -/
theorem digits_or_point {word : List Char} (numerals : ∀ c ∈ word, c.isDigit = true ∨ c = '.') :
    (∀ c ∈ word, c.isDigit = true) ∨
      ∃ whole rest, word = whole ++ '.' :: rest ∧ (∀ c ∈ whole, c.isDigit = true) ∧
        ∀ c ∈ rest, c.isDigit = true ∨ c = '.' := by
  induction word with
  | nil => exact .inl fun _ member => absurd member List.not_mem_nil
  | cons c word ih =>
    obtain ⟨first, later⟩ := List.forall_mem_cons.mp numerals
    rcases first with digit | rfl
    · rcases ih later with digits | ⟨whole, rest, rfl, digits, others⟩
      · exact .inl (List.forall_mem_cons.mpr ⟨digit, digits⟩)
      · exact .inr ⟨c :: whole, rest, rfl, List.forall_mem_cons.mpr ⟨digit, digits⟩, others⟩
    · exact .inr ⟨[], word, rfl, fun _ member => absurd member List.not_mem_nil, later⟩

theorem count_point_digits {digits : List Char} (all : ∀ c ∈ digits, c.isDigit = true) :
    digits.count '.' = 0 :=
  List.count_eq_zero.mpr fun member => absurd (all '.' member) (by decide)

/-! ## The grammar on digits and points -/

theorem decimal?_digits {digits : List Char} (all : ∀ c ∈ digits, c.isDigit = true) :
    (decimal? digits).isSome = true ↔ digits ≠ [] := by
  rw [decimal?, splitDigits_self all]
  cases digits <;> simp [splitFraction, exponent?]

theorem decimal?_point {whole fraction : List Char} (digits : ∀ c ∈ whole, c.isDigit = true)
    (fractions : ∀ c ∈ fraction, c.isDigit = true) :
    (decimal? (whole ++ '.' :: fraction)).isSome = true ↔ whole ++ fraction ≠ [] := by
  rw [decimal?, splitDigits_point digits]
  simp only [splitFraction, splitDigits_self fractions]
  cases whole <;> cases fraction <;> simp [exponent?]

/-- A second point stands where only an exponent could. -/
theorem decimal?_second_point {whole fraction : List Char}
    (digits : ∀ c ∈ whole, c.isDigit = true) (fractions : ∀ c ∈ fraction, c.isDigit = true)
    (rest : List Char) : decimal? (whole ++ '.' :: (fraction ++ '.' :: rest)) = none := by
  rw [decimal?, splitDigits_point digits]
  simp [splitFraction, splitDigits_point fractions, exponent?]

theorem exists_digit_iff {digits : List Char} (all : ∀ c ∈ digits, c.isDigit = true) :
    (∃ c ∈ digits, c.isDigit = true) ↔ digits ≠ [] := by
  refine ⟨fun ⟨c, member, _⟩ => List.ne_nil_of_mem member, fun nonempty => ?_⟩
  obtain ⟨c, member⟩ := List.exists_mem_of_ne_nil digits nonempty
  exact ⟨c, member, all c member⟩

/-- The grammar of decimals takes a word of digits and points iff it has a digit, and no
second point. -/
theorem decimal?_isSome_iff {word : List Char}
    (numerals : ∀ c ∈ word, c.isDigit = true ∨ c = '.') :
    (decimal? word).isSome = true ↔ (∃ c ∈ word, c.isDigit = true) ∧ word.count '.' ≤ 1 := by
  rcases digits_or_point numerals with digits | ⟨whole, rest, rfl, digits, others⟩
  · rw [decimal?_digits digits, exists_digit_iff digits, count_point_digits digits]
    simp
  rcases digits_or_point others with fractions | ⟨fraction, rest, rfl, fractions, -⟩
  · have both : ∀ c ∈ whole ++ rest, c.isDigit = true :=
      List.forall_mem_append.mpr ⟨digits, fractions⟩
    have counted : (whole ++ '.' :: rest).count '.' = 1 := by
      simp [count_point_digits digits, count_point_digits fractions]
    have same : (∃ c ∈ whole ++ '.' :: rest, c.isDigit = true) ↔
        ∃ c ∈ whole ++ rest, c.isDigit = true := by
      simp [or_and_right, exists_or]
    rw [decimal?_point digits fractions, counted, same, exists_digit_iff both]
    simp
  · have counted : 2 ≤ (whole ++ '.' :: (fraction ++ '.' :: rest)).count '.' := by
      simp
      omega
    rw [decimal?_second_point digits fractions]
    refine iff_of_false (by simp) fun few => ?_
    exact absurd (counted.trans few.2) (by decide)

theorem toLower_of_not_isAlpha {c : Char} (noLetter : c.isAlpha = false) : c.toLower = c := by
  refine dif_neg fun upper => ?_
  have letter : c.isAlpha = true := Bool.or_eq_true_iff.mpr (.inl (decide_eq_true upper))
  rw [noLetter] at letter
  cases letter

/-- Digits and points are no signs, and do not spell `inf` or `nan`. -/
theorem ofChars?_eq_decimal? {word : List Char}
    (numerals : ∀ c ∈ word, c.isDigit = true ∨ c = '.') :
    ofChars? word = (decimal? word).map (.decimal false) := by
  have unsigned : splitSign word = (false, word) := by
    unfold splitSign
    split
    · simp at numerals
    · simp at numerals
    · rfl
  have noN : 'n' ∉ (String.ofList (word.map Char.toLower)).toList := by
    rw [String.toList_ofList, List.mem_map]
    rintro ⟨c, member, lower⟩
    have noLetter := (Token.isWordChar_of_numeral (numerals c member)).2
    rw [toLower_of_not_isAlpha noLetter] at lower
    rw [lower] at noLetter
    cases noLetter
  have other : ∀ text : String, 'n' ∈ text.toList →
      String.ofList (word.map Char.toLower) ≠ text := by
    rintro _ present rfl
    exact noN present
  have notNan := other "nan" (by decide)
  have notInf := not_or.mpr ⟨other "inf" (by decide), other "infinity" (by decide)⟩
  unfold ofChars?
  rw [unsigned]
  simp only [if_neg notNan, if_neg notInf]

theorem read?_isSome_iff {text : String}
    (numerals : ∀ c ∈ text.toList, c.isDigit = true ∨ c = '.') :
    (read? text).isSome = true ↔
      (∃ c ∈ text.toList, c.isDigit = true) ∧ text.toList.count '.' ≤ 1 := by
  rw [read?, ofChars?_eq_decimal? numerals, Option.isSome_map, Option.isSome_map,
    decimal?_isSome_iff numerals]

theorem isFaulty_iff {text : String} (numerals : ∀ c ∈ text.toList, c.isDigit = true ∨ c = '.') :
    IsFaulty text.toList ↔ read? text = none := by
  rw [← Option.not_isSome_iff_eq_none, read?_isSome_iff numerals, not_and_or, not_le]
  simp only [IsFaulty, not_exists, not_and, Bool.not_eq_true]
  exact and_iff_right numerals

end Numeral

/-! ## The words of a text -/

namespace Token

theorem IsWritten.text_ne_nil {token : Token} (written : token.IsWritten) :
    token.text.toList ≠ [] := by
  rcases written.cases with ⟨c, found⟩ | ⟨nonempty, -, -⟩
  · rw [(text_of_ofSymbol? found).1]
    exact List.cons_ne_nil c []
  · exact nonempty

theorem eq_ofWord_of_spells {piece : List Char} {token : Token} (spelled : Spells piece token)
    (some : ∃ c ∈ piece, isWordChar c = true) : token = ofWord piece := by
  obtain ⟨rfl, written⟩ := spelled
  rcases written.cases with ⟨c, found⟩ | ⟨-, -, word⟩
  · obtain ⟨same, -, noWord, -⟩ := text_of_ofSymbol? found
    obtain ⟨d, member, inWord⟩ := some
    rw [same, List.mem_singleton] at member
    rw [member, noWord] at inWord
    cases inWord
  · exact word.symm

theorem eq_number_of_spells {piece : List Char} {token : Token} (spelled : Spells piece token)
    (numerals : ∀ c ∈ piece, c.isDigit = true ∨ c = '.') :
    token = .number (String.ofList piece) := by
  obtain ⟨c, member⟩ : ∃ c, c ∈ piece := by
    rw [← spelled.1]
    exact List.exists_mem_of_ne_nil _ spelled.2.text_ne_nil
  have noLetter : ¬ piece.any Char.isAlpha = true := by
    rw [List.any_eq_true]
    rintro ⟨d, inPiece, letter⟩
    rw [(isWordChar_of_numeral (numerals d inPiece)).2] at letter
    cases letter
  rw [eq_ofWord_of_spells spelled ⟨c, member, (isWordChar_of_numeral (numerals c member)).1⟩,
    ofWord, if_neg noLetter]

theorem eq_identifier_of_spells {piece : List Char} {token : Token}
    (spelled : Spells piece token) (letter : ∃ c ∈ piece, c.isAlpha = true) :
    token = .identifier (String.ofList piece) := by
  have inWord : ∃ c ∈ piece, isWordChar c = true := by
    obtain ⟨c, member, isLetter⟩ := letter
    exact ⟨c, member, by simp [isWordChar, Char.isAlphanum, isLetter]⟩
  rw [eq_ofWord_of_spells spelled inWord, ofWord, if_pos (List.any_eq_true.mpr letter)]

theorem exists_of_forall₂ {β γ : Type} {R : β → γ → Prop} {bs : List β} {cs : List γ}
    (all : List.Forall₂ R bs cs) {b : β} (member : b ∈ bs) : ∃ c ∈ cs, R b c := by
  induction all with
  | nil => cases member
  | cons first _ ih =>
    rcases List.mem_cons.mp member with rfl | later
    · exact ⟨_, List.mem_cons_self, first⟩
    · obtain ⟨c, found, related⟩ := ih later
      exact ⟨c, List.mem_cons_of_mem _ found, related⟩

theorem exists_spelled {source : String} {tokens : List Token}
    (scanned : scan source = .ok tokens) {piece : List Char}
    (member : piece ∈ pieces source.toList) : ∃ token ∈ tokens, Spells piece token :=
  exists_of_forall₂ (spells_of_scanFrom scanned) member

theorem exists_piece {source : String} {tokens : List Token}
    (scanned : scan source = .ok tokens) {token : Token} (member : token ∈ tokens) :
    ∃ piece ∈ pieces source.toList, Spells piece token :=
  exists_of_forall₂ (spells_of_scanFrom scanned).flip member

end Token

/-! ## The numbers of a line -/

theorem Statement.mem_of_mem_expression {tokens : List Token} {token : Token}
    (member : token ∈ expression tokens) : token ∈ tokens := by
  unfold expression at member
  split at member
  · exact List.mem_cons_of_mem _ (List.mem_cons_of_mem _ member)
  · exact member

/-- In a line that has a value every number is the text of one. -/
theorem Evaluator.readable_of_value {α : Type} {arith : Arithmetic α} {store : Store α}
    {tokens : List Token} {value : α} {target : Option String}
    (has : ((ofStore store).evaluate arith tokens).2.outcome = .ok ⟨value, target⟩) :
    Readable arith tokens := by
  obtain ⟨-, whole, -, reckoned⟩ := reckon_of_value has
  obtain ⟨_, _, _, taken, -, -⟩ := Traced.bind_eq_ok.mp reckoned
  intro text member
  rw [whole, List.mem_append] at member
  rcases member with lead | inExpression
  · cases target <;> simp [Statement.lead] at lead
  · exact Workspace.readable_of_readAll taken text inExpression

/-- A number of a text is the text of one iff it has a digit and no second point. So a
malformed number is a word of the text, made of digits and points, without a digit or
with two points; a text with such a word has no value, wherever it stands; and a word
with a letter in it is never a malformed number, but read from the variables, even where
the grammar of numerals knows it. -/
theorem evaluate_numerals {source : String} {tokens : List Token}
    (scanned : Token.scan source = .ok tokens) :
    let words := Token.pieces source.toList
    (∀ text, .number text ∈ tokens →
        ((Numeral.read? text).isSome = true ↔
          (∃ c ∈ text.toList, c.isDigit = true) ∧ text.toList.count '.' ≤ 1)) ∧
      ∀ store : Store Float,
        let outcome := ((Evaluator.ofStore store).evaluate .binary64 tokens).2.outcome
        (∀ text, outcome = .error (.malformed (.malformedNumber text)) →
          text.toList ∈ words ∧ Numeral.IsFaulty text.toList) ∧
        (∀ word ∈ words, Numeral.IsFaulty word → ∀ evaluation, outcome ≠ .ok evaluation) ∧
        ∀ word ∈ words, (∃ c ∈ word, c.isAlpha = true) →
          let name := String.ofList word
          outcome ≠ .error (.malformed (.malformedNumber name)) ∧
            .identifier name ∈ tokens ∧
            ∀ position w, Workspace.read .binary64 store position w (.identifier name) =
              pure (w.pushOperand ((store.lookup name).getD 0.0)) := by
  intro words
  have numerals : ∀ text, .number text ∈ tokens →
      text.toList ∈ words ∧ ∀ c ∈ text.toList, c.isDigit = true ∨ c = '.' := by
    intro text member
    obtain ⟨piece, found, same, -, written⟩ := Token.exists_piece scanned member
    exact ⟨same ▸ found, written⟩
  have readable : ∀ text, .number text ∈ tokens →
      ((Numeral.read? text).isSome = true ↔
        (∃ c ∈ text.toList, c.isDigit = true) ∧ text.toList.count '.' ≤ 1) :=
    fun text member => Numeral.read?_isSome_iff (numerals text member).2
  refine ⟨readable, fun store => ?_⟩
  intro outcome
  have malformed : ∀ text, outcome = .error (.malformed (.malformedNumber text)) →
      text.toList ∈ words ∧ Numeral.IsFaulty text.toList := by
    intro text failed
    obtain ⟨⟨⟩, -⟩ | ⟨-, plain, alone⟩ := Evaluator.reckon_of_failure failed
    obtain ⟨before, after, split, -, unread, -⟩ := Workspace.malformedNumber_grounds plain alone
    have member : .number text ∈ tokens := by
      refine Statement.mem_of_mem_expression ?_
      rw [split]
      exact List.mem_append_right before List.mem_cons_self
    obtain ⟨inWords, digitsOrPoints⟩ := numerals text member
    exact ⟨inWords, (Numeral.isFaulty_iff digitsOrPoints).mpr unread⟩
  refine ⟨malformed, fun word inWords faulty evaluation has => ?value,
    fun word inWords letter => ?identifier⟩
  case value =>
    obtain ⟨token, member, spelled⟩ := Token.exists_spelled scanned inWords
    rw [Token.eq_number_of_spells spelled faulty.1] at member
    have read : (Numeral.read? (String.ofList word)).isSome = true :=
      Evaluator.readable_of_value has _ member
    rw [← String.toList_ofList (l := word)] at faulty
    have unread := (Numeral.isFaulty_iff faulty.1).mp faulty
    rw [unread] at read
    cases read
  case identifier =>
    intro name
    obtain ⟨token, member, spelled⟩ := Token.exists_spelled scanned inWords
    rw [Token.eq_identifier_of_spells spelled letter] at member
    refine ⟨fun failed => ?_, member, fun position w => rfl⟩
    obtain ⟨-, digitsOrPoints, -⟩ := malformed name failed
    obtain ⟨c, inWord, isLetter⟩ := letter
    rw [← String.toList_ofList (l := word)] at inWord
    rw [(Token.isWordChar_of_numeral (digitsOrPoints c inWord)).2] at isLetter
    cases isLetter

/-- In `nan + 1.2.3 * 1e5` only the number is no numeral. The other two words are, and are
read from the variables, where `1e5` is not bound and so is worth zero. -/
theorem evaluate_numerals_second_point :
    let source := "nan + 1.2.3 * 1e5"
    let tokens : List Token := [.identifier "nan", .operator .add, .number "1.2.3",
      .operator .mul, .identifier "1e5"]
    Token.scan source = .ok tokens ∧
      ((Evaluator.ofStore Store.seeded).evaluate .binary64 tokens).2.outcome =
        .error (.malformed (.malformedNumber "1.2.3")) ∧
      "1.2.3".toList ∈ Token.pieces source.toList ∧ Numeral.IsFaulty "1.2.3".toList ∧
      (Numeral.read? "1e5").isSome = true ∧
      Workspace.read .binary64 Store.seeded 0 Workspace.empty (.identifier "1e5") =
        pure ⟨[0.0], []⟩ := by
  intro source tokens
  have scanned : Token.scan source = .ok tokens := by decide +kernel
  obtain ⟨-, ofStore⟩ := evaluate_numerals scanned
  obtain ⟨malformed, -, identifiers⟩ := ofStore Store.seeded
  have failed : ((Evaluator.ofStore Store.seeded).evaluate .binary64 tokens).2.outcome =
      .error (.malformed (.malformedNumber "1.2.3")) := by decide +kernel
  obtain ⟨word, faulty⟩ := malformed "1.2.3" failed
  have present : "1e5".toList ∈ Token.pieces source.toList := by decide +kernel
  obtain ⟨-, -, reads⟩ := identifiers _ present (by simp)
  exact ⟨scanned, failed, word, faulty, by decide +kernel, reads 0 Workspace.empty⟩

end Calculator
