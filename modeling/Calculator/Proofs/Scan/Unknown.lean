import Calculator.Proofs.Scan.Append

/-!
# The first unknown character

A scan can only fail at a character that no token starts with, and it fails at
the first one. Its place counts the bytes before it, whatever stands there, and
nothing that follows it matters.

Results:
1. `Token.isKnown_iff`: the known characters, one by one.
2. `Token.scanFrom_eq_error_iff`: where and with what a scan fails.
3. `scan_fails`: the same of a line.
-/

namespace Calculator

namespace Token

/-- The characters of lines other than letters and digits. -/
def marks : List Char :=
  ['.', '+', '-', '*', '/', '%', '^', '(', ')', '=', ' ', '\t', '\r', '\n', '\x0c']

theorem isKnown_iff {c : Char} : IsKnown c ↔ c.isAlphanum = true ∨ c ∈ marks := by
  simp only [IsKnown, isWordChar, isGap, symbols, marks, List.mem_cons, List.not_mem_nil,
    Bool.or_eq_true, decide_eq_true_iff]
  grind

instance : DecidablePred IsKnown := fun _ => decidable_of_iff _ isKnown_iff.symm

theorem scanFrom_first_unknown (offset : Nat) {before : List Char}
    (known : ∀ d ∈ before, IsKnown d) {c : Char} (unknown : ¬ IsKnown c) (after : List Char) :
    scanFrom offset (before ++ c :: after) =
      .error (.unexpectedCharacter c (offset + Text.byteCount before)) := by
  have apart : Apart before (c :: after) :=
    apart_of_head (isWordChar_of_unknown unknown) before after
  obtain ⟨tokens, scanned⟩ := scanFrom_succeeds offset known
  rw [scanFrom_append offset apart, scanned, scanFrom_unknown unknown]
  rfl

/-- In a text with an unknown character there is a first one. -/
theorem exists_first_unknown {cs : List Char} (some : ∃ c ∈ cs, ¬ IsKnown c) :
    ∃ before c after, cs = before ++ c :: after ∧ (∀ d ∈ before, IsKnown d) ∧ ¬ IsKnown c := by
  obtain ⟨c, member, unknown⟩ := some
  obtain ⟨first, found⟩ : ∃ first, cs.find? (fun d => ¬ IsKnown d) = .some first :=
    Option.isSome_iff_exists.mp (List.find?_isSome.mpr ⟨c, member, by simpa using unknown⟩)
  obtain ⟨unknown, before, after, rfl, known⟩ := List.find?_eq_some_iff_append.mp found
  exact ⟨before, first, after, rfl, by simpa using known, by simpa using unknown⟩

/-- A scan fails at the first unknown character, with the number of bytes before
it. -/
theorem scanFrom_eq_error_iff {offset : Nat} {cs : List Char} {fault : SyntaxFault} :
    scanFrom offset cs = .error fault ↔
      ∃ before c after, cs = before ++ c :: after ∧ (∀ d ∈ before, IsKnown d) ∧ ¬ IsKnown c ∧
        fault = .unexpectedCharacter c (offset + Text.byteCount before) := by
  constructor
  · intro failed
    by_cases some : ∃ c ∈ cs, ¬ IsKnown c
    · obtain ⟨before, c, after, rfl, known, unknown⟩ := exists_first_unknown some
      rw [scanFrom_first_unknown offset known unknown] at failed
      exact ⟨before, c, after, rfl, known, unknown, (Except.error.inj failed).symm⟩
    · have known : ∀ c ∈ cs, IsKnown c := by simpa using some
      obtain ⟨tokens, scanned⟩ := scanFrom_succeeds offset known
      rw [scanned] at failed
      cases failed
  · rintro ⟨before, c, after, rfl, known, unknown, rfl⟩
    exact scanFrom_first_unknown offset known unknown after

end Token

/-- A line is scanned without fault iff all its characters are letters, digits or
marks. If not, the fault is the first other character, with the number of bytes
before it in UTF-8. -/
theorem scan_fails (source : String) :
    ((∃ fault, Token.scan source = .error fault) ↔
        ∃ c ∈ source.toList, ¬(c.isAlphanum = true ∨ c ∈ Token.marks)) ∧
      ∀ fault, Token.scan source = .error fault ↔
        ∃ (before : String) (c : Char) (after : String),
          source = before ++ String.singleton c ++ after ∧
            (∀ d ∈ before.toList, d.isAlphanum = true ∨ d ∈ Token.marks) ∧
            ¬(c.isAlphanum = true ∨ c ∈ Token.marks) ∧
            fault = .unexpectedCharacter c before.utf8ByteSize := by
  simp only [← Token.isKnown_iff, Token.scan]
  constructor
  · constructor
    · rintro ⟨fault, failed⟩
      obtain ⟨before, c, after, split, -, unknown, -⟩ := Token.scanFrom_eq_error_iff.mp failed
      exact ⟨c, by simp [split], unknown⟩
    · intro some
      obtain ⟨before, c, after, split, known, unknown⟩ := Token.exists_first_unknown some
      exact ⟨_, Token.scanFrom_eq_error_iff.mpr ⟨before, c, after, split, known, unknown, rfl⟩⟩
  · intro fault
    rw [Token.scanFrom_eq_error_iff]
    constructor
    · rintro ⟨before, c, after, split, known, unknown, rfl⟩
      refine ⟨String.ofList before, c, String.ofList after, ?_, by simpa using known, unknown, ?_⟩
      · rw [← String.toList_inj, split]
        simp
      · rw [Text.utf8ByteSize_ofList, Nat.zero_add]
    · rintro ⟨before, c, after, rfl, known, unknown, rfl⟩
      refine ⟨before.toList, c, after.toList, by simp, known, unknown, ?_⟩
      rw [Text.byteCount_toList, Nat.zero_add]

end Calculator
