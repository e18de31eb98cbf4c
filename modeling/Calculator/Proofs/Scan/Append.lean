import Calculator.Proofs.Scan.Pieces

/-!
# Texts one after the other

A scan that takes the longest word at each place need not fit together from
scans of the parts of a text. Here it does, wherever a text is cut, unless the
cut goes through a word: the second part is scanned as if it stood alone, and
only the places of its failures are counted from the start of the whole text.

Results:
1. `Token.scanFrom_shift`: what stands before a text moves the place of its
   failure and changes nothing else.
2. `Token.scanFrom_append`: the scan of two texts that do not run together.
-/

namespace Calculator

/-- A fault in a text, when so many bytes more stand before the text. -/
def SyntaxFault.shift (bytes : Nat) : SyntaxFault → SyntaxFault
  | .unexpectedCharacter found offset => .unexpectedCharacter found (bytes + offset)
  | fault => fault

namespace Token

variable {cs ds : List Char}

/-- Whether no word goes on from the end of one text to the start of another. -/
def Apart (cs ds : List Char) : Prop :=
  ∀ c ∈ cs.getLast?, ∀ d ∈ ds.head?,
    ¬((c.isAlphanum = true ∨ c = '.') ∧ (d.isAlphanum = true ∨ d = '.'))

/-! ## Places -/

theorem mapError_map {ε ε' β γ : Type} (x : Except ε β) (f : β → γ) (g : ε → ε') :
    (x.map f).mapError g = (x.mapError g).map f := by
  cases x <;> rfl

/-- What stands before a text moves the place of its failure and changes nothing
else. -/
theorem scanFrom_shift (bytes offset : Nat) (cs : List Char) :
    scanFrom (bytes + offset) cs = (scanFrom offset cs).mapError (SyntaxFault.shift bytes) := by
  induction cs using byWords generalizing offset with
  | nil =>
    rw [scanFrom, scanFrom]
    rfl
  | word word rest nonempty inWord ends ih =>
    rw [scanFrom_word _ nonempty inWord ends, scanFrom_word _ nonempty inWord ends, Nat.add_assoc,
      ih, mapError_map]
  | single c rest apart ih =>
    by_cases known : IsKnown c
    · obtain ⟨front, scanned⟩ := exists_front_of_known apart known
      rw [scanned, scanned, Nat.add_assoc, ih, mapError_map]
    · rw [scanFrom_unknown known, scanFrom_unknown known]
      rfl

/-! ## Two texts -/

theorem isWordChar_iff {c : Char} : isWordChar c = true ↔ c.isAlphanum = true ∨ c = '.' := by
  rw [isWordChar, Bool.or_eq_true, decide_eq_true_iff]

theorem Apart.rest (front : List Char) (apart : Apart (front ++ cs) ds) : Apart cs ds := by
  intro c last
  refine apart c ?_
  rw [List.getLast?_append, Option.mem_def.mp last]
  rfl

/-- A word that ends before the second text ends before what is left of both. -/
theorem Apart.ends {word rest : List Char} (apart : Apart (word ++ rest) ds) (nonempty : word ≠ [])
    (inWord : ∀ c ∈ word, isWordChar c = true) (ends : ∀ c ∈ rest.head?, isWordChar c = false) :
    ∀ c ∈ (rest ++ ds).head?, isWordChar c = false := by
  cases rest with
  | cons d rest => exact ends
  | nil =>
    intro d next
    rw [List.append_nil] at apart
    have final : word.getLast nonempty ∈ word.getLast? := List.getLast?_eq_some_getLast nonempty
    refine Bool.eq_false_iff.mpr fun goesOn => apart _ final d next ⟨?_, isWordChar_iff.mp goesOn⟩
    exact isWordChar_iff.mp (inWord _ (List.getLast_mem nonempty))

theorem apart_of_head {c : Char} (noWord : isWordChar c = false) (cs rest : List Char) :
    Apart cs (c :: rest) := by
  rintro - - d next ⟨-, goesOn⟩
  obtain rfl : c = d := Option.some.inj next
  rw [isWordChar_iff.mpr goesOn] at noWord
  cases noWord

theorem apart_of_forall (noWord : ∀ c ∈ cs, isWordChar c = false) (ds : List Char) :
    Apart cs ds := by
  rintro c last - - ⟨inWord, -⟩
  have other := noWord c (List.mem_of_mem_getLast? last)
  rw [isWordChar_iff.mpr inWord] at other
  cases other

theorem map_bind_append (front : List Token) (x y : Except SyntaxFault (List Token)) :
    (x >>= fun tokens => y.map (tokens ++ ·)).map (front ++ ·) =
      x.map (front ++ ·) >>= fun tokens => y.map (tokens ++ ·) := by
  cases x with
  | error fault => rfl
  | ok tokens =>
    cases y with
    | error fault => rfl
    | ok more => exact congrArg Except.ok (List.append_assoc front tokens more).symm

/-- Two texts that do not run together are scanned one after the other. -/
theorem scanFrom_append (offset : Nat) (apart : Apart cs ds) :
    scanFrom offset (cs ++ ds) =
      scanFrom offset cs >>= fun tokens =>
        (scanFrom (offset + Text.byteCount cs) ds).map (tokens ++ ·) := by
  induction cs using byWords generalizing offset with
  | nil =>
    have empty : scanFrom offset [] = .ok [] := by rw [scanFrom]
    rw [empty]
    change scanFrom offset ds = (scanFrom offset ds).map ([] ++ ·)
    cases scanFrom offset ds <;> rfl
  | word word rest nonempty inWord ends ih =>
    rw [List.append_assoc, scanFrom_word offset nonempty inWord (apart.ends nonempty inWord ends),
      scanFrom_word offset nonempty inWord ends, ih _ (apart.rest word), Text.byteCount_append,
      ← Nat.add_assoc]
    exact map_bind_append [ofWord word] _ _
  | single c rest noWord ih =>
    have later : Apart rest ds := Apart.rest [c] apart
    by_cases known : IsKnown c
    · obtain ⟨front, scanned⟩ := exists_front_of_known noWord known
      rw [List.cons_append, scanned, scanned, ih _ later, Text.byteCount_cons, ← Nat.add_assoc]
      exact map_bind_append front _ _
    · rw [List.cons_append, scanFrom_unknown known, scanFrom_unknown known]
      rfl

end Token

end Calculator
