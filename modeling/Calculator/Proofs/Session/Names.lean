import Calculator.Proofs.Scan.Word
import Calculator.Proofs.Session.Runs

/-!
# The names of a session's variables

The store accepts any name. That all names of a session are variables' names,
and none is there twice, is because only such names are assigned to and a
binding looks for the name first.

Results:
1. `Store.Named.bind`, `named_executeAll`: every run keeps the names in order.
2. `names_execute`: a line adds a name iff it assigns to a new one.
3. `session_names`: the names in every session that lines lead to, and what a
   word that cannot be a name reads as.
-/

namespace Calculator

/-- The names of a store are variables' names, all different, and begin with
those of the seeded variables. -/
structure Store.Named {α : Type} (store : Store α) : Prop where
  distinct : store.names.Nodup
  valid : ∀ name ∈ store.names, Token.isVariableName name = true
  seeded : ["pi", "e"] <+: store.names

theorem Token.isVariableName_of_mem {word : String} {c : Char} (member : c ∈ word.toList)
    (apart : c.isDigit = true ∨ c = '.') : isVariableName word = false := by
  have noLetter : ¬ c.isAlpha = true := by
    rcases apart with digit | rfl
    · simp [isAlpha_of_isDigit digit]
    · decide
  rw [isVariableName, Bool.and_eq_false_iff, List.all_eq_false]
  exact .inr ⟨c, member, noLetter⟩

namespace Store

variable {α : Type} {store : Store α}

theorem Named.bind (named : store.Named) {name : String}
    (valid : Token.isVariableName name = true) (value : α) : (store.bind name value).Named := by
  obtain ⟨distinct, all, seeded⟩ := named
  by_cases bound : name ∈ store.names
  · have same : (store.bind name value).names = store.names := by
      rw [names_bind, if_pos bound]
    exact ⟨by rwa [same], by rwa [same], by rwa [same]⟩
  · have added : (store.bind name value).names = store.names ++ [name] := by
      rw [names_bind, if_neg bound]
    refine ⟨?_, ?_, ?_⟩
    · rw [added, List.nodup_append]
      refine ⟨distinct, List.pairwise_singleton _ name, ?_⟩
      intro other member _ last equal
      exact bound (List.mem_singleton.mp last ▸ equal ▸ member)
    · intro other member
      rw [added, List.mem_append, List.mem_singleton] at member
      rcases member with old | rfl
      · exact all other old
      · exact valid
    · rw [added]
      exact seeded.trans (List.prefix_append store.names [name])

theorem Named.lookup_eq_none (named : store.Named) {name : String}
    (invalid : Token.isVariableName name = false) : store.lookup name = none := by
  cases found : store.lookup name with
  | none => rfl
  | some value =>
    have bound : store.contains name = true := by rw [contains, found]; rfl
    have valid := named.valid name ((store.contains_iff name).mp bound)
    rw [invalid] at valid
    cases valid

end Store

def Response.added (names : List String) : Response → List String
  | assigned name _ => if name ∈ names then [] else [name]
  | _ => []

namespace Session

theorem names_storeAfter (store : Store Float) (response : Response) :
    (response.storeAfter store).names = store.names ++ response.added store.names := by
  cases response with
  | assigned name x =>
    rw [Response.storeAfter, Response.added, Store.names_bind]
    split
    · exact (List.append_nil _).symm
    · rfl
  | help | quit | listing _ | value _ | invalid => exact (List.append_nil _).symm

/-- A line keeps the names in their order and adds those that its response adds. -/
theorem names_execute (store : Store Float) (line : String) :
    ((ofStore store).execute line).1.store.names =
      store.names ++ ((ofStore store).execute line).2.response.added store.names := by
  rw [execute_fst, store_ofStore, names_storeAfter]

theorem added_cases (names : List String) (response : Response) :
    (∃ name x, response = .assigned name x ∧ name ∉ names ∧ response.added names = [name]) ∨
      (¬ ∃ name x, response = .assigned name x ∧ name ∉ names) ∧ response.added names = [] := by
  cases response with
  | assigned name x =>
    by_cases bound : name ∈ names
    · refine .inr ⟨?_, if_pos bound⟩
      rintro ⟨_, _, ⟨⟩, new⟩
      exact new bound
    · exact .inl ⟨name, x, rfl, bound, if_neg bound⟩
  | help | quit | listing _ | value _ | invalid =>
    refine .inr ⟨?_, rfl⟩
    rintro ⟨_, _, ⟨⟩, _⟩

theorem named_executeAll (lines : List String) :
    ∃ store, (start.executeAll lines).1 = ofStore store ∧ store.Named := by
  have step : ∀ s line, (∃ store, s = ofStore store ∧ store.Named) →
      ∃ store, (s.execute line).1 = ofStore store ∧ store.Named := by
    rintro _ line ⟨store, rfl, named⟩
    refine ⟨_, execute_fst store line, ?_⟩
    cases response : ((ofStore store).execute line).2.response with
    | assigned name x => exact named.bind (isVariableName_of_assigned response) x
    | help | quit | listing _ | value _ | invalid => exact named
  exact executeAll_invariant step ⟨Store.seeded, rfl, by decide, by decide, by decide⟩ lines

/-- A word that is no variable's name has the value of an unbound variable. -/
theorem execute_unbound {store : Store Float} {word : String}
    (inWord : ∀ c ∈ word.toList, Token.isWordChar c = true)
    (letter : ∃ c ∈ word.toList, c.isAlpha = true)
    (other : word ≠ "h" ∧ word ≠ "q" ∧ word ≠ "l") (unbound : store.lookup word = none) :
    ((ofStore store).execute word).2.response = .value 0.0 := by
  have nonempty : word.toList ≠ [] := by
    obtain ⟨c, member, -⟩ := letter
    exact List.ne_nil_of_mem member
  have scanned : Token.scan word = .ok [.identifier word] := by
    rw [Token.scan_word nonempty inWord, Token.ofWord, if_pos (List.any_eq_true.mpr letter),
      String.ofList_toList]
  obtain ⟨-, response⟩ :=
    execute_of_scan (ofStore store) (Command.ofLine_word inWord other) scanned
  rw [response]
  change Response.value ((store.lookup word).getD Arithmetic.binary64.unbound) = _
  rw [unbound]
  rfl

end Session

/-- In every session that lines lead to, the names are different variables'
names and begin with `pi` and `e`. A line keeps them in order; it adds one iff
it is answered by an assignment to a name that was not there. An identifier with
a digit or a point in it reads as zero, also as a line of its own. -/
theorem session_names (lines : List String) :
    let s := (Session.start.executeAll lines).1
    s.store.names.Nodup ∧
      (∀ name ∈ s.store.names, name.toList ≠ [] ∧ ∀ c ∈ name.toList, c.isAlpha = true) ∧
      s.store.names.take 2 = ["pi", "e"] ∧
      (∀ line,
        let next := (s.execute line).1
        let adds := ∃ name x, (s.execute line).2.response = .assigned name x ∧
          name ∉ s.store.names
        s.store.names <+: next.store.names ∧
          (next.store.names.length = s.store.names.length + 1 ↔ adds) ∧
          (¬ adds → next.store.names = s.store.names)) ∧
      ∀ word : String, (∃ c ∈ word.toList, c.isDigit = true ∨ c = '.') →
        (∀ position w, Workspace.read .binary64 s.store position w (.identifier word) =
          pure (w.pushOperand 0.0)) ∧
        ((∀ c ∈ word.toList, Token.isWordChar c = true) → (∃ c ∈ word.toList, c.isAlpha = true) →
          (s.execute word).2.response = .value 0.0) := by
  obtain ⟨store, reached, named⟩ := Session.named_executeAll lines
  rw [reached]
  refine ⟨named.distinct, ?valid, List.prefix_iff_eq_take.mp named.seeded |>.symm, ?step, ?word⟩
  case valid =>
    intro name member
    simpa [Token.isVariableName] using named.valid name member
  case step =>
    intro line next adds
    have names : next.store.names = store.names ++ _ := Session.names_execute store line
    rw [names]
    refine ⟨List.prefix_append _ _, ?_⟩
    rcases Session.added_cases store.names ((Session.ofStore store).execute line).2.response with
      ⟨name, x, assigned, new, added⟩ | ⟨nothing, added⟩
    · have adding : adds := ⟨name, x, assigned, new⟩
      rw [added, List.length_append]
      exact ⟨iff_of_true rfl adding, fun none => absurd adding none⟩
    · rw [added, List.append_nil]
      exact ⟨iff_of_false (Nat.ne_of_lt (Nat.lt_succ_self _)) nothing, fun _ => rfl⟩
  case word =>
    rintro word ⟨c, member, apart⟩
    have unbound : store.lookup word = none :=
      named.lookup_eq_none (Token.isVariableName_of_mem member apart)
    have other : ∀ name, Token.isVariableName name = true → word ≠ name := by
      rintro name valid rfl
      rw [Token.isVariableName_of_mem member apart] at valid
      cases valid
    refine ⟨fun position w => ?_, fun inWord letter => ?_⟩
    · change (pure (w.pushOperand ((store.lookup word).getD Arithmetic.binary64.unbound)) :
        Traced Float (Workspace Float)) = _
      rw [unbound]
      rfl
    · exact Session.execute_unbound inWord letter
        ⟨other "h" (by decide), other "q" (by decide), other "l" (by decide)⟩ unbound

/-- After `x = 1`, `x1` is another word, and no name. -/
theorem session_names_digit :
    (∃ c ∈ "x1".toList, c.isDigit = true ∨ c = '.') ∧
      (∀ c ∈ "x1".toList, Token.isWordChar c = true) ∧
      (∃ c ∈ "x1".toList, c.isAlpha = true) ∧
      ((Session.start.executeAll ["x = 1"]).1.execute "x1").2.response = .value 0.0 := by
  have digit : ∃ c ∈ "x1".toList, c.isDigit = true ∨ c = '.' := by simp
  have inWord : ∀ c ∈ "x1".toList, Token.isWordChar c = true := by simp [Token.isWordChar]
  have letter : ∃ c ∈ "x1".toList, c.isAlpha = true := by simp
  exact ⟨digit, inWord, letter,
    ((session_names ["x = 1"]).2.2.2.2 "x1" digit).2 inWord letter⟩

end Calculator
