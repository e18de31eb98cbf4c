import Calculator.Proofs.Scan.Gap
import Calculator.Proofs.Session.Log

/-!
# A line by itself

The value of a line can be asked for by itself, or the line can be the first one of a
session. A session drops the blanks at the ends of a line before it is scanned, and
otherwise they are scanned with it. Of the 25 blanks the scan knows five. So the two
agree, up to the place of a failure, where nothing but those five was dropped; and with
any other blank at its ends a line has no value by itself.

Results:
1. `Token.scanFrom_padded`: gaps at the ends of a text.
2. `Token.mem_equals_iff`: a text with an equals sign has the token.
3. `Session.execute_padded`: the answer of a session that has just started.
4. `execute_alone`: that answer and the value of the line by itself.
-/

namespace Calculator

namespace Token

/-! ## Gaps at the ends -/

/-- Gaps at the ends of a text move the place of its failure and change nothing else. -/
theorem scanFrom_padded {front cs back : List Char} (blank : ∀ c ∈ front ++ back, c ∈ gaps) :
    scanFrom 0 (front ++ cs ++ back) =
      (scanFrom 0 cs).mapError (SyntaxFault.shift (Text.byteCount front)) := by
  obtain ⟨before, after⟩ := List.forall_mem_append.mp blank
  have nothing : ∀ offset, scanFrom offset [] = .ok [] := fun offset => by rw [scanFrom]
  have opened : scanFrom 0 ([] ++ front ++ (cs ++ back)) = _ :=
    scanFrom_gapped 0 before fun _ => by simp [Apart]
  have closed : scanFrom (Text.byteCount front) (cs ++ back ++ []) = _ :=
    scanFrom_gapped _ after fun _ => by simp [Apart]
  rw [nothing] at opened closed
  rw [List.nil_append, ← List.append_assoc] at opened
  rw [List.append_nil] at closed
  rw [opened, Nat.zero_add, ← scanFrom_shift, Nat.add_zero]
  show (scanFrom (Text.byteCount front) (cs ++ back)).map ([] ++ ·) = _
  rw [closed]
  cases scanFrom (Text.byteCount front) cs with
  | error fault => rfl
  | ok tokens => exact congrArg Except.ok (List.append_nil tokens)

/-- A blank that a line can be scanned with is a gap. -/
theorem mem_gaps_of_isKnown {c : Char} (blank : Text.isBlank c = true) (known : IsKnown c) :
    c ∈ gaps := by
  rcases known with inWord | symbol | gap
  · rw [isBlank_of_isWordChar inWord] at blank
    cases blank
  · simp only [symbols, List.mem_cons, List.not_mem_nil, or_false] at symbol
    rcases symbol with rfl | rfl | rfl | rfl | rfl | rfl | rfl | rfl | rfl <;> cases blank
  · exact isGap_iff.mp gap

theorem isKnown_of_scanFrom {offset : Nat} {cs : List Char} {tokens : List Token}
    (scanned : scanFrom offset cs = .ok tokens) : ∀ c ∈ cs, IsKnown c := by
  intro c member
  by_contra unknown
  obtain ⟨before, d, after, rfl, known, stops⟩ := exists_first_unknown ⟨c, member, unknown⟩
  rw [scanFrom_first_unknown offset known stops] at scanned
  cases scanned

/-! ## Equals signs -/

theorem mem_equals_text {token : Token} (written : token.IsWritten) :
    '=' ∈ token.text.toList ↔ token = .equals := by
  constructor
  · intro member
    rcases written.cases with ⟨c, found⟩ | ⟨-, inWord, -⟩
    · rw [(text_of_ofSymbol? found).1, List.mem_singleton] at member
      rw [← member] at found
      exact (Option.some.inj found).symm
    · exact absurd (inWord '=' member) (by decide)
  · rintro rfl
    exact List.mem_singleton_self '='

/-- The tokens of a text have an equals sign iff the text has one. -/
theorem mem_equals_iff {offset : Nat} {cs : List Char} {tokens : List Token}
    (scanned : scanFrom offset cs = .ok tokens) : .equals ∈ tokens ↔ '=' ∈ cs := by
  have kept : '=' ∈ cs ↔ '=' ∈ tokens.flatMap fun token => token.text.toList := by
    rw [flatten_of_spells (spells_of_scanFrom scanned), flatten_pieces, List.mem_filter]
    exact (and_iff_left rfl).symm
  have written := isWritten_of_scanFrom scanned
  rw [kept, List.mem_flatMap]
  constructor
  · exact fun member => ⟨.equals, member, List.mem_singleton_self '='⟩
  · rintro ⟨token, member, inText⟩
    rwa [← (mem_equals_text (written token member)).mp inText]

end Token

/-! ## The value of a line -/

theorem valueOfLine_of_fault {line : String} {fault : SyntaxFault}
    (failed : Token.scan line = .error fault) : valueOfLine line = .error (.malformed fault) := by
  unfold valueOfLine
  rw [failed]
  rfl

theorem valueOfLine_of_scan {line : String} {tokens : List Token}
    (scanned : Token.scan line = .ok tokens) :
    valueOfLine line =
      ((Evaluator.ofStore Store.seeded).evaluate .binary64 tokens).2.outcome.map (·.value) := by
  unfold valueOfLine
  rw [scanned]
  show ((Evaluator.ofStore Store.seeded).evaluate .binary64 tokens).2.outcome >>= _ = _
  cases ((Evaluator.ofStore Store.seeded).evaluate .binary64 tokens).2.outcome <;> rfl

/-- A line with a value has a target iff it has an equals sign. -/
theorem Evaluator.isSome_target_iff {α : Type} {arith : Arithmetic α} {store : Store α}
    {tokens : List Token} {value : α} {target : Option String}
    (has : ((ofStore store).evaluate arith tokens).2.outcome = .ok ⟨value, target⟩) :
    target.isSome = true ↔ .equals ∈ tokens := by
  obtain ⟨-, whole, plain, -⟩ := reckon_of_value has
  rw [whole, List.mem_append, or_iff_left plain]
  cases target <;> simp [Statement.lead]

namespace Session

theorem evaluate_of_fault (s : Session) {source : String} {fault : SyntaxFault}
    (failed : Token.scan source = .error fault) : (s.evaluate source).2.response = .invalid := by
  unfold evaluate
  rw [failed]

/-- Where a line has only gaps around what is evaluated, a session that has just started
answers it by what it has been scanned to with them, if it could be. -/
theorem execute_padded {line : String}
    (other : ¬ (Text.trim line = "h" ∨ Text.trim line = "q" ∨ Text.trim line = "l"))
    {front back : List Char} (padded : line.toList = front ++ (Text.trim line).toList ++ back)
    (blank : ∀ c ∈ front ++ back, c ∈ Token.gaps) :
    (∃ fault, Token.scan line = .error fault ∧ (start.execute line).2.response = .invalid) ∨
      ∃ tokens, Token.scan line = .ok tokens ∧ (start.execute line).2.response =
        .ofOutcome ((Evaluator.ofStore Store.seeded).evaluate .binary64 tokens).2.outcome := by
  have whole : Token.scan line = (Token.scan (Text.trim line)).mapError
      (SyntaxFault.shift (Text.byteCount front)) := by
    rw [Token.scan, padded, Token.scanFrom_padded blank]
    rfl
  rw [start.execute_of_other other]
  cases scanned : Token.scan (Text.trim line) with
  | error fault =>
    rw [scanned] at whole
    exact .inl ⟨_, whole, start.evaluate_of_fault scanned⟩
  | ok tokens =>
    rw [scanned] at whole
    refine .inr ⟨tokens, whole, ?_⟩
    rw [start.evaluate_of_scan scanned]
    rfl

end Session

/-- A line that is no command has front and back blanks, and what is evaluated between
them. If the line by itself has a value, this is the answer of a session that has just
started, as an assignment iff the line has an equals sign. If it has none, the answer is
that the line is invalid, unless there is a blank at its ends other than a space, a tab,
a carriage return, a line feed and a form feed. With such a blank the line by itself
cannot be scanned, whatever the answer is. -/
theorem execute_alone {line : String}
    (other : ¬ (Text.trim line = "h" ∨ Text.trim line = "q" ∨ Text.trim line = "l")) :
    let response := (Session.start.execute line).2.response
    ∃ front back : List Char,
      line.toList = front ++ (Text.trim line).toList ++ back ∧
      (∀ c ∈ front ++ back, Text.isBlank c = true) ∧
      (∀ x, valueOfLine line = .ok x →
        ('=' ∉ line.toList ∧ response = .value x) ∨
          ('=' ∈ line.toList ∧ ∃ name, response = .assigned name x)) ∧
      (∀ failure, valueOfLine line = .error failure →
        (∀ c ∈ front ++ back, c ∈ Token.gaps) → response = .invalid) ∧
      ((∃ c ∈ front ++ back, c ∉ Token.gaps) →
        ∃ c offset, valueOfLine line = .error (.malformed (.unexpectedCharacter c offset))) := by
  intro response
  obtain ⟨front, back, padded, blank⟩ := Text.exists_trimChars line.toList
  have trimmed : (Text.trim line).toList = Text.trimChars line.toList := String.toList_ofList
  rw [← trimmed] at padded
  have inLine : ∀ c ∈ front ++ back, c ∈ line.toList := by
    intro c member
    rw [padded, List.mem_append, List.mem_append]
    exact (List.mem_append.mp member).imp_left .inl
  refine ⟨front, back, padded, blank, fun x has => ?value, fun failure failed gaps => ?invalid,
    fun ⟨c, member, apart⟩ => ?unknown⟩
  case value =>
    cases scanned : Token.scan line with
    | error fault =>
      rw [valueOfLine_of_fault scanned] at has
      cases has
    | ok tokens =>
      -- The scan has come to the end of the line, so it knows all blanks at its ends.
      have gaps : ∀ c ∈ front ++ back, c ∈ Token.gaps := fun c member =>
        Token.mem_gaps_of_isKnown (blank c member)
          (Token.isKnown_of_scanFrom scanned c (inLine c member))
      obtain ⟨fault, unscanned, -⟩ | ⟨_, same, answer⟩ :=
        Session.execute_padded other padded gaps
      · cases scanned.symm.trans unscanned
      · cases scanned.symm.trans same
        rw [valueOfLine_of_scan scanned, Token.map_eq_ok] at has
        obtain ⟨⟨_, target⟩, outcome, rfl⟩ := has
        have assigns := Evaluator.isSome_target_iff outcome
        rw [Token.mem_equals_iff scanned] at assigns
        rw [outcome] at answer
        cases target with
        | none => exact .inl ⟨fun present => (nomatch assigns.mpr present), answer⟩
        | some name => exact .inr ⟨assigns.mp rfl, name, answer⟩
  case invalid =>
    obtain ⟨fault, -, answer⟩ | ⟨tokens, scanned, answer⟩ :=
      Session.execute_padded other padded gaps
    · exact answer
    · rw [valueOfLine_of_scan scanned] at failed
      show (Session.start.execute line).2.response = _
      rw [answer]
      cases outcome : ((Evaluator.ofStore Store.seeded).evaluate .binary64 tokens).2.outcome with
      | error _ => rfl
      | ok evaluation =>
        rw [outcome] at failed
        cases failed
  case unknown =>
    have unknown : ¬ Token.IsKnown c := fun known =>
      apart (Token.mem_gaps_of_isKnown (blank c member) known)
    obtain ⟨before, d, after, split, known, stops⟩ :=
      Token.exists_first_unknown ⟨c, inLine c member, unknown⟩
    refine ⟨d, 0 + Text.byteCount before, valueOfLine_of_fault ?_⟩
    rw [Token.scan, split, Token.scanFrom_first_unknown 0 known stops]

/-- By itself ` r = 2` with a tab has the value that a session assigns. A no-break space
after `2` is dropped by the session, which answers 2, and is a failure by itself. -/
theorem execute_alone_blanks :
    let assigning := " r = 2\t"
    let broken := "2 \u00a0"
    let answer := fun line => (Session.start.execute line).2.response
    (¬ (Text.trim assigning = "h" ∨ Text.trim assigning = "q" ∨ Text.trim assigning = "l") ∧
        valueOfLine assigning = .ok 2 ∧ ∃ name, answer assigning = .assigned name 2) ∧
      ¬ (Text.trim broken = "h" ∨ Text.trim broken = "q" ∨ Text.trim broken = "l") ∧
        answer broken = .value 2 ∧
        ∃ c offset, valueOfLine broken = .error (.malformed (.unexpectedCharacter c offset)) := by
  intro assigning broken answer
  have noLetter : ¬ (Text.trim assigning = "h" ∨ Text.trim assigning = "q" ∨
      Text.trim assigning = "l") := by decide +kernel
  have noLetterBroken : ¬ (Text.trim broken = "h" ∨ Text.trim broken = "q" ∨
      Text.trim broken = "l") := by decide +kernel
  have value : valueOfLine assigning = .ok 2 := by decide +kernel
  obtain ⟨-, -, -, -, answers, -⟩ := execute_alone noLetter
  obtain ⟨front, back, padded, -, -, -, fails⟩ := execute_alone noLetterBroken
  have trimmed : Text.trim broken = "2" := by decide +kernel
  have scanned : Token.scan "2" = .ok [.number "2"] := by decide +kernel
  have outcome : (Session.start.evaluator.evaluate .binary64 [.number "2"]).2.outcome =
      .ok ⟨2, none⟩ := by decide +kernel
  refine ⟨⟨noLetter, value, ?_⟩, noLetterBroken, ?_, fails ⟨'\u00a0', ?_, by decide⟩⟩
  · rcases answers 2 value with ⟨absent, -⟩ | ⟨-, named⟩
    · exact absurd (by decide) absent
    · exact named
  · show (Session.start.execute broken).2.response = _
    rw [Session.execute_of_other _ noLetterBroken, trimmed, Session.evaluate_of_scan _ scanned,
      outcome]
    rfl
  · have member : '\u00a0' ∈ front ++ "2".toList ++ back := by
      rw [← trimmed, ← padded]
      decide
    simpa using member

end Calculator
