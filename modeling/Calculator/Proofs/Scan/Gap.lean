import Calculator.Proofs.Scan.Unknown

/-!
# Gaps between tokens

How wide a gap is, and which of the five characters it is made of, does not
matter, and where no word is cut or runs together it may as well be missing.

Results:
1. `Token.scanFrom_gapped`: two texts with a gap between them.
2. `scan_append`: two lines, one after the other, with and without a gap.
-/

namespace Calculator

namespace Token

variable {cs ds : List Char}

/-- The characters that separate tokens and mean nothing else. -/
def gaps : List Char := [' ', '\t', '\n', '\r', '\x0c']

theorem isGap_iff {c : Char} : isGap c = true ↔ c ∈ gaps := by
  simp [isGap, gaps, or_assoc]

theorem scanFrom_gaps (offset : Nat) {gap : List Char} (blank : ∀ c ∈ gap, c ∈ gaps) :
    scanFrom offset gap = .ok [] := by
  have skipped : scanFrom offset (gap ++ []) = scanFrom (offset + Text.byteCount gap) [] :=
    scanFrom_gap_append offset (fun c member => isGap_iff.mpr (blank c member)) []
  rw [List.append_nil] at skipped
  rw [skipped, scanFrom]

/-- Two texts with a gap between them are scanned one after the other. The gap may
be empty where no word runs together. -/
theorem scanFrom_gapped (offset : Nat) {gap : List Char} (blank : ∀ c ∈ gap, c ∈ gaps)
    (empty : gap = [] → Apart cs ds) :
    scanFrom offset (cs ++ gap ++ ds) =
      scanFrom offset cs >>= fun tokens =>
        (scanFrom (offset + Text.byteCount (cs ++ gap)) ds).map (tokens ++ ·) := by
  cases gap with
  | nil =>
    rw [List.append_nil]
    exact scanFrom_append offset (empty rfl)
  | cons c gap =>
    have noWord : ∀ d ∈ c :: gap, isWordChar d = false :=
      fun d member => isWordChar_of_isGap (isGap_iff.mpr (blank d member))
    have front : Apart cs (c :: gap) := apart_of_head (noWord c List.mem_cons_self) cs gap
    have back : Apart (cs ++ c :: gap) ds := by
      intro d last
      refine apart_of_forall noWord ds d ?_
      rwa [List.getLast?_append_of_ne_nil cs (List.cons_ne_nil c gap)] at last
    have skipped : scanFrom offset (cs ++ c :: gap) = scanFrom offset cs := by
      rw [scanFrom_append offset front, scanFrom_gaps _ blank]
      cases scanFrom offset cs with
      | error fault => rfl
      | ok tokens => exact congrArg Except.ok (List.append_nil tokens)
    rw [scanFrom_append offset back, skipped]

theorem bind_map_eq_ok {x y : Except SyntaxFault (List Token)} {tokens : List Token} :
    (x >>= fun front => y.map (front ++ ·)) = .ok tokens ↔
      ∃ front back, x = .ok front ∧ y = .ok back ∧ front ++ back = tokens := by
  cases x with
  | error fault =>
    constructor
    · intro succeeded
      cases succeeded
    · rintro ⟨_, _, failed, -⟩
      cases failed
  | ok front =>
    change y.map (front ++ ·) = .ok tokens ↔ _
    rw [map_eq_ok]
    simp

/-- Where a text starts in its line does not matter for its tokens. -/
theorem scanFrom_eq_ok {offset : Nat} {tokens : List Token} :
    scanFrom offset cs = .ok tokens ↔ scanFrom 0 cs = .ok tokens := by
  rw [← Nat.add_zero offset, scanFrom_shift]
  cases scanFrom 0 cs <;> simp [Except.mapError]

/-- The tokens of two texts with a gap between them are those of both texts. -/
theorem scanFrom_gapped_eq_ok {gap : List Char} (blank : ∀ c ∈ gap, c ∈ gaps)
    (empty : gap = [] → Apart cs ds) {tokens : List Token} :
    scanFrom 0 (cs ++ gap ++ ds) = .ok tokens ↔
      ∃ front back, scanFrom 0 cs = .ok front ∧ scanFrom 0 ds = .ok back ∧
        front ++ back = tokens := by
  rw [scanFrom_gapped 0 blank empty, bind_map_eq_ok]
  refine exists_congr fun front => exists_congr fun back => and_congr_right fun _ => ?_
  rw [scanFrom_eq_ok]

end Token

/-- Two texts that do not run together are scanned each as if it stood alone. A
failure of the first is that of both. A failure of the second has the same
character, and its place is counted from the start of the first. Without failures
the tokens of the second follow those of the first. So a gap between two texts can
be opened, closed or changed, and no token changes, unless a word is cut or two run
together. -/
theorem scan_append (first second : String) :
    (Token.Apart first.toList second.toList →
        (∀ fault, Token.scan first = .error fault →
          Token.scan (first ++ second) = .error fault) ∧
        (∀ tokens fault, Token.scan first = .ok tokens → Token.scan second = .error fault →
          ∃ c offset, fault = .unexpectedCharacter c offset ∧
            Token.scan (first ++ second) =
              .error (.unexpectedCharacter c (first.utf8ByteSize + offset))) ∧
        ∀ tokens more, Token.scan first = .ok tokens → Token.scan second = .ok more →
          Token.scan (first ++ second) = .ok (tokens ++ more)) ∧
      ∀ gap other : String,
        (∀ c ∈ gap.toList, c ∈ Token.gaps) → (∀ c ∈ other.toList, c ∈ Token.gaps) →
        (gap = "" ∨ other = "" → Token.Apart first.toList second.toList) →
        ∀ tokens, Token.scan (first ++ gap ++ second) = .ok tokens ↔
          Token.scan (first ++ other ++ second) = .ok tokens := by
  constructor
  · intro apart
    have both : Token.scan (first ++ second) = Token.scan first >>= fun tokens =>
        ((Token.scan second).mapError (SyntaxFault.shift first.utf8ByteSize)).map
          (tokens ++ ·) := by
      rw [Token.scan, String.toList_append, Token.scanFrom_append 0 apart,
        Text.byteCount_toList, Nat.add_comm 0, Token.scanFrom_shift]
      rfl
    refine ⟨fun fault failed => ?failed, fun tokens fault scanned failed => ?shifted,
      fun tokens more scanned next => ?appended⟩
    case failed =>
      rw [both, failed]
      rfl
    case shifted =>
      obtain ⟨before, c, after, -, -, -, rfl⟩ := Token.scanFrom_eq_error_iff.mp failed
      refine ⟨c, _, rfl, ?_⟩
      rw [both, scanned, failed]
      rfl
    case appended =>
      rw [both, scanned, next]
      rfl
  · intro gap other blank blankOther apart tokens
    have empty : ∀ {s : String}, s.toList = [] → s = "" := fun none =>
      String.toList_inj.mp none
    simp only [Token.scan, String.toList_append]
    rw [Token.scanFrom_gapped_eq_ok blank fun none => apart (.inl (empty none)),
      Token.scanFrom_gapped_eq_ok blankOther fun none => apart (.inr (empty none))]

/-- `2 *` has three bytes, so `€` in `x€` is reported one byte later; and between
`2 *` and `x` any gap may stand, or none. -/
theorem scan_append_shifted :
    Token.Apart "2 *".toList "x€".toList ∧
      Token.scan ("2 *" ++ "x€") = .error (.unexpectedCharacter '€' (3 + 1)) ∧
      Token.scan ("2 *" ++ "\t\r\n" ++ "x") =
        .ok [.number "2", .operator .mul, .identifier "x"] := by
  have apart : Token.Apart "2 *".toList "x€".toList := by simp [Token.Apart]
  have scanned : Token.scan "2 *" = .ok [.number "2", .operator .mul] := by
    simp [Token.scan, Token.scanFrom, Token.isWordChar, Token.isGap, Token.ofSymbol?,
      Operator.ofSymbol?, Token.ofWord, Except.map]
  have failed : Token.scan "x€" = .error (.unexpectedCharacter '€' 1) := by
    have size : 'x'.utf8Size = 1 := rfl
    simp [Token.scan, Token.scanFrom, Token.isWordChar, Token.isGap, Token.ofSymbol?,
      Operator.ofSymbol?, Except.map, Text.byteCount, size]
  have closed : Token.scan ("2 *" ++ "" ++ "x") =
      .ok [.number "2", .operator .mul, .identifier "x"] := by
    simp [Token.scan, Token.scanFrom, Token.isWordChar, Token.isGap, Token.ofSymbol?,
      Operator.ofSymbol?, Token.ofWord, Except.map]
  have size : "2 *".utf8ByteSize = 3 := by decide
  obtain ⟨-, shifted, -⟩ := (scan_append "2 *" "x€").1 apart
  obtain ⟨c, offset, known, whole⟩ := shifted _ _ scanned failed
  cases known
  rw [size] at whole
  have opened := (scan_append "2 *" "x").2 "" "\t\r\n" (by simp)
    (by simp [Token.gaps]) fun _ => by simp [Token.Apart]
  exact ⟨apart, whole, (opened _).mp closed⟩

end Calculator
