import Calculator.Proofs.Scan.Written
import Mathlib.Computability.Language

/-!
# The longest match

Every kind of token has a pattern, and two patterns can match at one place: `12` is a
number and the front of the name `12x`. The rule for a text is stated over the patterns
alone. Of all matches at a place the longest is taken, whichever pattern it belongs to, and
its token is kept unless the pattern is that of the gaps; a character at which no pattern
matches ends the text.

The scan looks for no matches and follows the rule all the same.

Results:
1. `Pattern.spells_of_mem`, `Pattern.exists_of_spells`: a pattern matches the texts of its
   tokens.
2. `Longest.unique`, `Munches.unique`: the rule leaves no choice.
3. `longest_word`, `longest_gap`, `longest_symbol`: the longest match at each character.
4. `munches_iff`: the scan follows the rule.
-/

namespace Calculator.Token

open scoped Computability

/-! ## Patterns -/

/-- The patterns that tokens are declared by. -/
inductive Pattern
  | number
  | identifier
  | operator (op : Operator)
  | opening
  | closing
  | equals
  | gap
  deriving DecidableEq, Repr

namespace Pattern

/-- One character of a class. -/
def oneOf (p : Char → Bool) : Language Char := {word | ∃ c, p c = true ∧ word = [c]}

def isNumeral (c : Char) : Bool := c.isDigit || c = '.'

/-- The words that a pattern matches. A number is `[0-9.]+`, an identifier is
`[0-9.]*[A-Za-z][A-Za-z0-9.]*`, a gap is `[ \t\r\n\f]+`, and all other patterns are single
characters. -/
def language : Pattern → Language Char
  | number => oneOf isNumeral * (oneOf isNumeral)∗
  | identifier => (oneOf isNumeral)∗ * oneOf Char.isAlpha * (oneOf isWordChar)∗
  | operator .add => {['+']}
  | operator .sub => {['-']}
  | operator .mul => {['*']}
  | operator .div => {['/']}
  | operator .rem => {['%']}
  | operator .pow => {['^']}
  | opening => {['(']}
  | closing => {[')']}
  | equals => {['=']}
  | gap => oneOf isGap * (oneOf isGap)∗

/-- The token of a word that a pattern matches. Gaps are skipped. -/
def token? : Pattern → List Char → Option Token
  | number, word => some (.number (String.ofList word))
  | identifier, word => some (.identifier (String.ofList word))
  | operator op, _ => some (.operator op)
  | opening, _ => some .opening
  | closing, _ => some .closing
  | equals, _ => some .equals
  | gap, _ => none

theorem mem_oneOf_kstar {p : Char → Bool} {word : List Char} :
    word ∈ (oneOf p)∗ ↔ ∀ c ∈ word, p c = true := by
  rw [Language.mem_kstar]
  constructor
  · rintro ⟨parts, rfl, each⟩ c member
    obtain ⟨part, inParts, inPart⟩ := List.mem_flatten.mp member
    obtain ⟨d, holds, rfl⟩ := each part inParts
    rwa [List.mem_singleton.mp inPart]
  · intro all
    have whole : word = (word.map fun c => [c]).flatten := by
      rw [← List.flatMap_def, List.flatMap_singleton']
    refine ⟨word.map fun c => [c], whole, fun part inParts => ?_⟩
    obtain ⟨c, member, rfl⟩ := List.mem_map.mp inParts
    exact ⟨c, all c member, rfl⟩

theorem mem_oneOf_plus {p : Char → Bool} {word : List Char} :
    word ∈ oneOf p * (oneOf p)∗ ↔ word ≠ [] ∧ ∀ c ∈ word, p c = true := by
  rw [Language.mem_mul]
  constructor
  · rintro ⟨_, ⟨c, holds, rfl⟩, rest, all, rfl⟩
    exact ⟨List.cons_ne_nil c rest,
      List.forall_mem_cons.mpr ⟨holds, mem_oneOf_kstar.mp all⟩⟩
  · rintro ⟨nonempty, all⟩
    obtain ⟨c, rest, rfl⟩ := List.exists_cons_of_ne_nil nonempty
    obtain ⟨first, later⟩ := List.forall_mem_cons.mp all
    exact ⟨[c], ⟨c, first, rfl⟩, rest, mem_oneOf_kstar.mpr later, rfl⟩

theorem isNumeral_iff {c : Char} : isNumeral c = true ↔ c.isDigit = true ∨ c = '.' := by
  rw [isNumeral, Bool.or_eq_true, decide_eq_true_eq]

theorem mem_number {word : List Char} :
    word ∈ number.language ↔ word ≠ [] ∧ ∀ c ∈ word, c.isDigit = true ∨ c = '.' := by
  show word ∈ oneOf isNumeral * (oneOf isNumeral)∗ ↔ _
  simp only [mem_oneOf_plus, isNumeral_iff]

/-- The letter in the pattern of an identifier is the first one of its word. -/
theorem mem_identifier {word : List Char} :
    word ∈ identifier.language ↔
      (∀ c ∈ word, isWordChar c = true) ∧ ∃ c ∈ word, c.isAlpha = true := by
  show word ∈ (oneOf isNumeral)∗ * oneOf Char.isAlpha * (oneOf isWordChar)∗ ↔ _
  constructor
  · rintro ⟨_, ⟨front, numerals, _, ⟨letter, isLetter, rfl⟩, rfl⟩, back, all, rfl⟩
    have inFront : ∀ c ∈ front, isWordChar c = true := fun c member =>
      (isWordChar_of_numeral (isNumeral_iff.mp (mem_oneOf_kstar.mp numerals c member))).1
    have inLetter : isWordChar letter = true := by
      simp [isWordChar, Char.isAlphanum, isLetter]
    refine ⟨?_, letter, by simp, isLetter⟩
    simp only [List.forall_mem_append, List.forall_mem_singleton]
    exact ⟨⟨inFront, inLetter⟩, mem_oneOf_kstar.mp all⟩
  · rintro ⟨inWord, c, member, isLetter⟩
    obtain ⟨front, letter, back, rfl, found, apart⟩ :
        ∃ front letter back, word = front ++ letter :: back ∧ letter.isAlpha = true ∧
          ∀ c ∈ front, c.isAlpha = false := by
      obtain ⟨letter, found⟩ := Option.isSome_iff_exists.mp
        (List.find?_isSome.mpr ⟨c, member, isLetter⟩)
      obtain ⟨holds, front, back, rfl, before⟩ := List.find?_eq_some_iff_append.mp found
      exact ⟨front, letter, back, rfl, holds, fun c inFront => by simpa using before c inFront⟩
    obtain ⟨inFront, inRest⟩ := List.forall_mem_append.mp inWord
    obtain ⟨-, inBack⟩ := List.forall_mem_cons.mp inRest
    have numerals : front ∈ (oneOf isNumeral)∗ := mem_oneOf_kstar.mpr fun c member =>
      isNumeral_iff.mpr (numeral_of_isWordChar (inFront c member) (apart c member))
    rw [List.append_cons]
    exact ⟨front ++ [letter], ⟨front, numerals, [letter], ⟨letter, found, rfl⟩, rfl⟩, back,
      mem_oneOf_kstar.mpr inBack, rfl⟩

theorem mem_operator {op : Operator} {word : List Char} :
    word ∈ (operator op).language ↔ word = [op.symbol] := by
  cases op <;> exact Set.mem_singleton_iff

theorem mem_gap {word : List Char} :
    word ∈ gap.language ↔ word ≠ [] ∧ ∀ c ∈ word, isGap c = true :=
  mem_oneOf_plus

/-- A pattern that keeps its words matches the texts of its tokens only. -/
theorem spells_of_mem {p : Pattern} {word : List Char} (matched : word ∈ p.language)
    {token : Token} (kept : p.token? word = some token) : Spells word token := by
  cases p with
  | gap => cases kept
  | number =>
    cases kept
    refine ⟨String.toList_ofList, ?_⟩
    rw [IsWritten, String.toList_ofList]
    exact mem_number.mp matched
  | identifier =>
    cases kept
    refine ⟨String.toList_ofList, ?_⟩
    rw [IsWritten, String.toList_ofList]
    exact mem_identifier.mp matched
  | operator op =>
    cases kept
    obtain rfl := mem_operator.mp matched
    exact ⟨by simp [text, Operator.text], trivial⟩
  | opening | closing | equals =>
    cases kept
    obtain rfl := Set.mem_singleton_iff.mp matched
    exact ⟨rfl, trivial⟩

theorem exists_of_spells {word : List Char} {token : Token} (spelled : Spells word token) :
    ∃ p : Pattern, word ∈ p.language ∧ p.token? word = some token := by
  obtain ⟨rfl, written⟩ := spelled
  cases token with
  | number text =>
    exact ⟨.number, mem_number.mpr written, by rw [token?, Token.text, String.ofList_toList]⟩
  | identifier text =>
    exact ⟨.identifier, mem_identifier.mpr written,
      by rw [token?, Token.text, String.ofList_toList]⟩
  | operator op => exact ⟨.operator op, mem_operator.mpr (by simp [Token.text, Operator.text]), rfl⟩
  | opening => exact ⟨.opening, rfl, rfl⟩
  | closing => exact ⟨.closing, rfl, rfl⟩
  | equals => exact ⟨.equals, rfl, rfl⟩
  | ignored => exact written.elim

/-- What a pattern matches is a run of word characters, one symbol, or a run of gaps. -/
theorem cases_of_mem {p : Pattern} {word : List Char} (matched : word ∈ p.language) :
    word ≠ [] ∧
      (((∀ c ∈ word, isWordChar c = true) ∧ p.token? word = some (ofWord word)) ∨
        (∃ c token, word = [c] ∧ ofSymbol? c = some token ∧ p.token? word = some token) ∨
        ((∀ c ∈ word, isGap c = true) ∧ p.token? word = none)) := by
  cases kept : p.token? word with
  | none =>
    obtain rfl : p = .gap := by cases p <;> first | rfl | cases kept
    obtain ⟨nonempty, blank⟩ := mem_gap.mp matched
    exact ⟨nonempty, .inr (.inr ⟨blank, rfl⟩)⟩
  | some token =>
    obtain ⟨rfl, written⟩ := spells_of_mem matched kept
    rcases written.cases with ⟨c, found⟩ | ⟨nonempty, inWord, same⟩
    · have single : token.text.toList = [c] := (text_of_ofSymbol? found).1
      exact ⟨by simp [single], .inr (.inl ⟨c, token, single, found, rfl⟩)⟩
    · exact ⟨nonempty, .inl ⟨inWord, by rw [same]⟩⟩

/-- The first character of a word that is matched decides which characters follow it. -/
theorem run_of_mem {p : Pattern} {c : Char} {cs : List Char} (matched : c :: cs ∈ p.language) :
    (isWordChar c = true → ∀ d ∈ c :: cs, isWordChar d = true) ∧
      (isGap c = true → ∀ d ∈ c :: cs, isGap d = true) ∧
      (∀ token, ofSymbol? c = some token → cs = []) := by
  rcases cases_of_mem matched with
    ⟨-, ⟨inWord, -⟩ | ⟨d, token, single, found, -⟩ | ⟨blank, -⟩⟩
  · have first : isWordChar c = true := inWord c List.mem_cons_self
    refine ⟨fun _ => inWord, fun gap => ?_, fun token found => ?_⟩
    · rw [isWordChar_of_isGap gap] at first
      cases first
    · rw [(text_of_ofSymbol? found).2.2.1] at first
      cases first
  · obtain ⟨rfl, rfl⟩ := List.cons.inj single
    exact ⟨fun inWord d member => List.mem_singleton.mp member ▸ inWord,
      fun gap d member => List.mem_singleton.mp member ▸ gap, fun _ _ => rfl⟩
  · have first : isGap c = true := blank c List.mem_cons_self
    refine ⟨fun inWord => ?_, fun _ => blank, fun token found => ?_⟩
    · rw [isGap_of_isWordChar inWord] at first
      cases first
    · rw [(text_of_ofSymbol? found).2.2.2] at first
      cases first

/-- What becomes of a word that is matched does not depend on the pattern. -/
theorem token?_of_mem {p : Pattern} {c : Char} {cs : List Char} (matched : c :: cs ∈ p.language) :
    p.token? (c :: cs) = if isWordChar c then some (ofWord (c :: cs)) else ofSymbol? c := by
  rcases cases_of_mem matched with
    ⟨-, ⟨inWord, kept⟩ | ⟨d, token, single, found, kept⟩ | ⟨blank, skipped⟩⟩
  · rw [if_pos (inWord c List.mem_cons_self), kept]
  · obtain ⟨rfl, rfl⟩ := List.cons.inj single
    rw [if_neg (by simp [(text_of_ofSymbol? found).2.2.1]), kept, found]
  · have gap : isGap c = true := blank c List.mem_cons_self
    rw [if_neg (by simp [isWordChar_of_isGap gap]), skipped]
    cases found : ofSymbol? c with
    | none => rfl
    | some token =>
      rw [(text_of_ofSymbol? found).2.2.2] at gap
      cases gap

end Pattern

/-! ## The rule -/

/-- `Longest cs p word rest`: at the front of this text the pattern matches the word, and no
pattern matches a longer one. -/
structure Longest (cs : List Char) (p : Pattern) (word rest : List Char) : Prop where
  whole : cs = word ++ rest
  matched : word ∈ p.language
  longest : ∀ (q : Pattern) (other later : List Char), cs = other ++ later →
    other ∈ q.language → other.length ≤ word.length

/-- `Munches offset cs outcome`: the rule gives this outcome for a text that has a number of
bytes before it. -/
inductive Munches : Nat → List Char → Except SyntaxFault (List Token) → Prop
  | done {offset : Nat} : Munches offset [] (.ok [])
  | keep {offset : Nat} {cs word rest : List Char} {p : Pattern} {token : Token}
      {outcome : Except SyntaxFault (List Token)} :
      Longest cs p word rest → p.token? word = some token →
      Munches (offset + Text.byteCount word) rest outcome →
      Munches offset cs (outcome.map (token :: ·))
  | skip {offset : Nat} {cs word rest : List Char} {p : Pattern}
      {outcome : Except SyntaxFault (List Token)} :
      Longest cs p word rest → p.token? word = none →
      Munches (offset + Text.byteCount word) rest outcome → Munches offset cs outcome
  | stuck {offset : Nat} {c : Char} {cs : List Char} :
      (∀ (p : Pattern) (word rest : List Char), c :: cs = word ++ rest → word ∉ p.language) →
      Munches offset (c :: cs) (.error (.unexpectedCharacter c offset))

/-! ## The rule leaves no choice -/

theorem Longest.nonempty {cs word rest : List Char} {p : Pattern}
    (longest : Longest cs p word rest) : cs ≠ [] := by
  have nonempty : word ≠ [] := (Pattern.cases_of_mem longest.matched).1
  rw [longest.whole]
  exact List.append_ne_nil_of_left_ne_nil nonempty rest

theorem Longest.unique {cs word rest other later : List Char} {p q : Pattern}
    (first : Longest cs p word rest) (second : Longest cs q other later) :
    word = other ∧ rest = later ∧ p.token? word = q.token? other := by
  have same : word ++ rest = other ++ later := first.whole.symm.trans second.whole
  have lengths : word.length = other.length :=
    Nat.le_antisymm (second.longest p word rest first.whole first.matched)
      (first.longest q other later second.whole second.matched)
  obtain ⟨rfl, rfl⟩ := List.append_inj same lengths
  obtain ⟨c, cs, rfl⟩ := List.exists_cons_of_ne_nil (Pattern.cases_of_mem first.matched).1
  refine ⟨rfl, rfl, ?_⟩
  rw [Pattern.token?_of_mem first.matched, Pattern.token?_of_mem second.matched]

theorem Munches.unique {offset : Nat} {cs : List Char}
    {outcome other : Except SyntaxFault (List Token)} (first : Munches offset cs outcome)
    (second : Munches offset cs other) : outcome = other := by
  induction first generalizing other with
  | done =>
    cases second with
    | done => rfl
    | keep longest _ _ | skip longest _ _ => exact absurd rfl longest.nonempty
  | keep longest kept _ ih =>
    cases second with
    | done => exact absurd rfl longest.nonempty
    | keep longest' kept' rest' =>
      obtain ⟨rfl, rfl, same⟩ := longest.unique longest'
      rw [kept, kept'] at same
      rw [ih rest', Option.some.inj same]
    | skip longest' skipped _ =>
      obtain ⟨-, -, same⟩ := longest.unique longest'
      rw [kept, skipped] at same
      cases same
    | stuck nowhere => exact absurd longest.matched (nowhere _ _ _ longest.whole)
  | skip longest skipped _ ih =>
    cases second with
    | done => exact absurd rfl longest.nonempty
    | keep longest' kept _ =>
      obtain ⟨-, -, same⟩ := longest.unique longest'
      rw [skipped, kept] at same
      cases same
    | skip longest' _ rest' =>
      obtain ⟨rfl, rfl, -⟩ := longest.unique longest'
      exact ih rest'
    | stuck nowhere => exact absurd longest.matched (nowhere _ _ _ longest.whole)
  | stuck nowhere =>
    cases second with
    | keep longest _ _ | skip longest _ _ =>
      exact absurd longest.matched (nowhere _ _ _ longest.whole)
    | stuck _ => rfl

/-! ## The longest match at each character -/

/-- No run of a class goes on behind the first character that is not of the class. -/
theorem length_le_of_run {p : Char → Bool} {word rest other later : List Char}
    (ends : ∀ c ∈ rest.head?, p c = false) (same : word ++ rest = other ++ later)
    (all : ∀ c ∈ other, p c = true) : other.length ≤ word.length := by
  rcases List.append_eq_append_iff.mp same with ⟨more, rfl, rfl⟩ | ⟨more, rfl, -⟩
  · cases more with
    | nil => rw [List.append_nil]
    | cons c more =>
      have inside : p c = true := all c (List.mem_append_right word List.mem_cons_self)
      rw [ends c rfl] at inside
      cases inside
  · rw [List.length_append]
    exact Nat.le_add_right _ _

/-- A run is the longest match if all that is matched from its first character on belongs to
its class. -/
theorem longest_of_run {p : Char → Bool} {pattern : Pattern} {word rest : List Char}
    (matched : word ∈ pattern.language) (all : ∀ c ∈ word, p c = true)
    (ends : ∀ c ∈ rest.head?, p c = false)
    (closed : ∀ (q : Pattern) (c : Char) (cs : List Char), p c = true → c :: cs ∈ q.language →
      ∀ d ∈ c :: cs, p d = true) :
    Longest (word ++ rest) pattern word rest := by
  refine ⟨rfl, matched, fun q other later same matchedOther => ?_⟩
  obtain ⟨c, cs, rfl⟩ := List.exists_cons_of_ne_nil (Pattern.cases_of_mem matched).1
  obtain ⟨d, ds, rfl⟩ := List.exists_cons_of_ne_nil (Pattern.cases_of_mem matchedOther).1
  obtain ⟨rfl, -⟩ := List.cons.inj same
  have first : p c = true := all c List.mem_cons_self
  exact length_le_of_run ends same (closed q c ds first matchedOther)

/-- A run of word characters is matched as a whole, wherever its first letter stands. -/
theorem longest_word {word rest : List Char} (nonempty : word ≠ [])
    (inWord : ∀ c ∈ word, isWordChar c = true) (ends : ∀ c ∈ rest.head?, isWordChar c = false) :
    ∃ p : Pattern, Longest (word ++ rest) p word rest ∧ p.token? word = some (ofWord word) := by
  obtain ⟨p, matched, kept⟩ := Pattern.exists_of_spells (isWritten_ofWord nonempty inWord)
  exact ⟨p, longest_of_run matched inWord ends fun _ _ _ first found =>
    (Pattern.run_of_mem found).1 first, kept⟩

theorem longest_gap {word rest : List Char} (nonempty : word ≠ [])
    (blank : ∀ c ∈ word, isGap c = true) (ends : ∀ c ∈ rest.head?, isGap c = false) :
    Longest (word ++ rest) .gap word rest :=
  longest_of_run (Pattern.mem_gap.mpr ⟨nonempty, blank⟩) blank ends fun _ _ _ first found =>
    (Pattern.run_of_mem found).2.1 first

/-- A symbol is matched by itself, whatever follows it. -/
theorem longest_symbol {c : Char} {token : Token} (found : ofSymbol? c = some token)
    (rest : List Char) :
    ∃ p : Pattern, Longest (c :: rest) p [c] rest ∧ p.token? [c] = some token := by
  obtain ⟨single, written, -⟩ := text_of_ofSymbol? found
  obtain ⟨p, matched, kept⟩ := Pattern.exists_of_spells ⟨single, written⟩
  refine ⟨p, ⟨rfl, matched, fun q other later same matchedOther => ?_⟩, kept⟩
  obtain ⟨d, ds, rfl⟩ := List.exists_cons_of_ne_nil (Pattern.cases_of_mem matchedOther).1
  obtain ⟨rfl, -⟩ := List.cons.inj same
  rw [(Pattern.run_of_mem matchedOther).2.2 token found]

/-- Where a character is not part of a word, a gap or a symbol, nothing is matched. -/
theorem not_mem_of_unknown {c : Char} {cs word rest : List Char} {p : Pattern}
    (noWord : isWordChar c = false) (noGap : isGap c = false) (noSymbol : ofSymbol? c = none)
    (whole : c :: cs = word ++ rest) : word ∉ p.language := by
  intro matched
  rcases Pattern.cases_of_mem matched with ⟨nonempty, front⟩
  obtain ⟨d, ds, rfl⟩ := List.exists_cons_of_ne_nil nonempty
  obtain ⟨rfl, -⟩ := List.cons.inj whole
  rcases front with ⟨inWord, -⟩ | ⟨d, token, single, found, -⟩ | ⟨blank, -⟩
  · rw [inWord c List.mem_cons_self] at noWord
    cases noWord
  · obtain ⟨rfl, -⟩ := List.cons.inj single
    rw [found] at noSymbol
    cases noSymbol
  · rw [blank c List.mem_cons_self] at noGap
    cases noGap

/-! ## The scan -/

theorem munches_scanFrom (offset : Nat) (cs : List Char) :
    Munches offset cs (scanFrom offset cs) := by
  match cs with
  | [] =>
    rw [scanFrom]
    exact .done
  | c :: cs =>
    cases inWord : isWordChar c with
    | true =>
      obtain ⟨word, rest, split, nonempty, all, ends, shorter⟩ := exists_run inWord cs
      obtain ⟨p, longest, kept⟩ := longest_word nonempty all ends
      rw [split, scanFrom_word offset nonempty all ends]
      exact .keep longest kept (munches_scanFrom _ rest)
    | false =>
      cases blank : isGap c with
      | true =>
        obtain ⟨word, rest, split, nonempty, all, ends, shorter⟩ := exists_run blank cs
        rw [split, scanFrom_gap_append offset all]
        exact .skip (longest_gap nonempty all ends) rfl (munches_scanFrom _ rest)
      | false =>
        cases found : ofSymbol? c with
        | some token =>
          obtain ⟨p, longest, kept⟩ := longest_symbol found cs
          rw [scanFrom_symbol offset found]
          exact .keep longest kept (munches_scanFrom _ cs)
        | none =>
          rw [scanFrom, if_neg (by simp [inWord]), if_neg (by simp [blank]), found]
          exact .stuck fun p word rest whole => not_mem_of_unknown inWord blank found whole
termination_by cs.length
decreasing_by
  · exact Nat.lt_succ_self cs.length
  · exact Nat.lt_succ_of_le shorter
  · exact Nat.lt_succ_of_le shorter

/-- The scan follows the rule: it gives the one outcome that the longest matches give. -/
theorem munches_iff {offset : Nat} {cs : List Char} {outcome : Except SyntaxFault (List Token)} :
    Munches offset cs outcome ↔ outcome = scanFrom offset cs := by
  constructor
  · intro munches
    exact munches.unique (munches_scanFrom offset cs)
  · rintro rfl
    exact munches_scanFrom offset cs

end Calculator.Token
