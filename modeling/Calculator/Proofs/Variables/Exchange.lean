import Calculator.Proofs.Statement.Assignment
import Calculator.Proofs.Variables.Independence

/-!
# Assignments in either order

An assignment leaves nothing but a binding, and a line reads no variables but those it
mentions. So two assignments that keep out of each other's way can change places, and it
does not matter whether one of them fails. The order of the listing is what could tell
which was first: it does, if both variables are new, and does not, if one was there.

Results:
1. `Store.bind_bind_eq_iff`: two bindings can change places iff one name was bound before.
2. `Evaluator.evaluate_named_of_lookup`: an assignment after others that it does not read.
3. `Evaluator.storeAfter_exchange`: the variables after two assignments in either order.
4. `evaluate_exchange`: the same of two lines.
-/

namespace Calculator

variable {α : Type} {arith : Arithmetic α}

/-! ## Two bindings -/

namespace Store

theorem put_comm {x y : String} (apart : x ≠ y) (v w : α) {bindings : List (Binding α)}
    (bound : x ∈ bindings.map (·.name) ∨ y ∈ bindings.map (·.name)) :
    put y w (put x v bindings) = put x v (put y w bindings) := by
  induction bindings with
  | nil => simp at bound
  | cons b bs ih =>
    by_cases atX : b.name = x
    · simp [put, atX, apart]
    · by_cases atY : b.name = y
      · simp [put, atY, apart.symm]
      · have later : x ∈ bs.map (·.name) ∨ y ∈ bs.map (·.name) := by
          simpa [Ne.symm atX, Ne.symm atY] using bound
        simp only [put, if_neg atX, if_neg atY, ih later]

theorem mem_names_bind {store : Store α} {name other : String} {value : α} :
    other ∈ (store.bind name value).names ↔ other ∈ store.names ∨ other = name := by
  rw [names_bind]
  split
  · next bound =>
    refine ⟨.inl, ?_⟩
    rintro (member | rfl)
    · exact member
    · exact bound
  · rw [List.mem_append, List.mem_singleton]

theorem size_bind (store : Store α) (name : String) (value : α) :
    (store.bind name value).size =
      if name ∈ store.names then store.size else store.size + 1 := by
  have counted : ∀ s : Store α, s.size = s.names.length := fun s => (List.length_map _).symm
  rw [counted, names_bind, counted]
  split
  · rfl
  · exact List.length_append

variable {x y : String} (apart : x ≠ y) (store : Store α) (v w : α)
include apart

/-- Two bindings can change places iff one of the names was bound before. -/
theorem bind_bind_eq_iff :
    (store.bind x v).bind y w = (store.bind y w).bind x v ↔
      ¬(x ∉ store.names ∧ y ∉ store.names) := by
  constructor
  · rintro same ⟨newX, newY⟩
    have names := congrArg Store.names same
    have laterY : y ∉ (store.bind x v).names := by simp [mem_names_bind, newY, apart.symm]
    have laterX : x ∉ (store.bind y w).names := by simp [mem_names_bind, newX, apart]
    rw [names_bind, if_neg laterY, names_bind, if_neg newX, names_bind, if_neg laterX, names_bind,
      if_neg newY, List.append_assoc, List.append_assoc] at names
    exact apart (List.cons.inj (List.append_cancel_left names)).1
  · intro bound
    refine congrArg Store.mk (put_comm apart v w ?_)
    by_contra none
    exact bound (not_or.mp none)

theorem lookup_bind_bind (name : String) :
    ((store.bind x v).bind y w).lookup name = ((store.bind y w).bind x v).lookup name := by
  simp only [lookup_bind]
  by_cases atX : name = x
  · have notY : name ≠ y := fun atY => apart (atX.symm.trans atY)
    rw [if_neg notY, if_pos atX, if_pos atX]
  · rw [if_neg atX, if_neg atX]

theorem size_bind_bind :
    ((store.bind x v).bind y w).size = ((store.bind y w).bind x v).size := by
  have stillY : y ∈ (store.bind x v).names ↔ y ∈ store.names := by
    simp [mem_names_bind, apart.symm]
  have stillX : x ∈ (store.bind y w).names ↔ x ∈ store.names := by
    simp [mem_names_bind, apart]
  simp only [size_bind, stillX, stillY]
  split
  · rfl
  · split
    · rfl
    · rfl

end Store

/-! ## Two assignments -/

/-- What a pass over an expression comes to depends on the store by the values of the
variables that the expression mentions. -/
theorem Workspace.reckon_of_lookup {first second : Store α} {tokens : List Token}
    (same : ∀ name, .identifier name ∈ tokens → first.lookup name = second.lookup name)
    (position : Nat) :
    reckon arith first position empty tokens = reckon arith second position empty tokens := by
  refine (reckon_related arith.respects_eq (fun token member => ?_) position).eq fun _ _ => id
  refine Token.related_eq fun name named => ?_
  rw [same name (named ▸ member)]

namespace Evaluator

/-- The end of an assignment whose expression came to this. -/
def assigning (name : String) (outcome : Except Failure α) : Except Failure (Evaluation α) :=
  outcome.map fun value => ⟨value, some name⟩

theorem outcome_evaluate_named {store : Store α} {name : String}
    (valid : Token.isVariableName name = true) {expression : List Token}
    (plain : .equals ∉ expression) :
    ((ofStore store).evaluate arith (.identifier name :: .equals :: expression)).2.outcome =
      assigning name (Workspace.reckon arith store 0 Workspace.empty expression).outcome := by
  rw [evaluate_named plain valid, Traced.bind_pure_eq]
  rfl

/-- An assignment does the same with other variables, if those it mentions are the same. -/
theorem evaluate_named_of_lookup {first second : Store α} {name : String}
    (valid : Token.isVariableName name = true) {expression : List Token}
    (plain : .equals ∉ expression)
    (same : ∀ other, .identifier other ∈ expression → first.lookup other = second.lookup other) :
    ((ofStore first).evaluate arith (.identifier name :: .equals :: expression)).2 =
      ((ofStore second).evaluate arith (.identifier name :: .equals :: expression)).2 := by
  rw [evaluate_named plain valid, evaluate_named plain valid, Workspace.reckon_of_lookup same]

theorem lookup_storeAfter_of_ne {name other : String} (apart : other ≠ name) (store : Store α)
    (outcome : Except Failure α) :
    (storeAfter store (assigning name outcome)).lookup other = store.lookup other := by
  cases outcome with
  | error failure => rfl
  | ok value => exact (store.lookup_bind name other value).trans (if_neg apart)

theorem mem_names_storeAfter {name other : String} {store : Store α} {outcome : Except Failure α}
    (member : other ∈ (storeAfter store (assigning name outcome)).names) :
    other ∈ store.names ∨ other = name ∧ ∃ value, outcome = .ok value := by
  cases outcome with
  | error failure => exact .inl member
  | ok value =>
    rcases Store.mem_names_bind.mp member with old | rfl
    · exact .inl old
    · exact .inr ⟨rfl, value, rfl⟩

/-- The variables after two assignments in either order: the same values, as many of
them, and in the same order unless both were added. -/
theorem storeAfter_exchange {x y : String} (apart : x ≠ y) (store : Store α)
    (first second : Except Failure α) :
    let xy := storeAfter (storeAfter store (assigning x first)) (assigning y second)
    let yx := storeAfter (storeAfter store (assigning y second)) (assigning x first)
    let isNew := fun name => name ∉ store.names ∧ name ∈ xy.names
    (∀ name, xy.lookup name = yx.lookup name) ∧ xy.size = yx.size ∧
      (xy = yx ↔ ¬(isNew x ∧ isNew y)) := by
  intro xy yx isNew
  have added : isNew x ∧ isNew y →
      (∃ v, first = .ok v) ∧ (∃ w, second = .ok w) ∧ x ∉ store.names ∧ y ∉ store.names := by
    rintro ⟨⟨newX, hasX⟩, newY, hasY⟩
    refine ⟨?_, ?_, newX, newY⟩
    · rcases mem_names_storeAfter hasX with early | ⟨same, -⟩
      · exact ((mem_names_storeAfter early).resolve_left newX).2
      · exact absurd same apart
    · rcases mem_names_storeAfter hasY with early | ⟨-, has⟩
      · have late := (mem_names_storeAfter early).resolve_left newY
        exact absurd late.1.symm apart
      · exact has
  cases first with
  | error failure =>
    refine ⟨fun _ => rfl, rfl, iff_of_true rfl fun both => ?_⟩
    obtain ⟨⟨_, failed⟩, -⟩ := added both
    cases failed
  | ok v =>
    cases second with
    | error failure =>
      refine ⟨fun _ => rfl, rfl, iff_of_true rfl fun both => ?_⟩
      obtain ⟨-, ⟨_, failed⟩, -⟩ := added both
      cases failed
    | ok w =>
      refine ⟨store.lookup_bind_bind apart v w, store.size_bind_bind apart v w, ?_⟩
      have same : xy = yx ↔ ¬(x ∉ store.names ∧ y ∉ store.names) :=
        store.bind_bind_eq_iff apart v w
      have hasX : x ∈ xy.names :=
        Store.mem_names_bind.mpr (.inl (Store.mem_names_bind.mpr (.inr rfl)))
      have hasY : y ∈ xy.names := Store.mem_names_bind.mpr (.inr rfl)
      simp only [same, isNew, hasX, hasY, and_true]

end Evaluator

/-- Two assignments to different variables, neither of which mentions the variable of the
other, can change places: each has the value, or the failure, that it has in the other
order, by the same reductions, and the variables have the same values afterwards. There
are as many of them, and they are listed in the same order unless both were added. -/
theorem evaluate_exchange (arith : Arithmetic α) (store : Store α) {x y : String} (apart : x ≠ y)
    (validX : Token.isVariableName x = true) (validY : Token.isVariableName y = true)
    {first second : List Token} (plainX : .equals ∉ first) (plainY : .equals ∉ second)
    (awayY : .identifier y ∉ first) (awayX : .identifier x ∉ second) :
    let toX := fun ev : Evaluator α => ev.evaluate arith (.identifier x :: .equals :: first)
    let toY := fun ev : Evaluator α => ev.evaluate arith (.identifier y :: .equals :: second)
    let start := Evaluator.ofStore store
    let xy := toY (toX start).1
    let yx := toX (toY start).1
    let isNew := fun name => name ∉ store.names ∧ name ∈ xy.1.store.names
    yx.2 = (toX start).2 ∧ xy.2 = (toY start).2 ∧
      (∀ name, xy.1.store.lookup name = yx.1.store.lookup name) ∧
      xy.1.store.size = yx.1.store.size ∧
      (xy.1.store = yx.1.store ↔ ¬(isNew x ∧ isNew y)) := by
  intro toX toY start xy yx isNew
  let outcomeX := (Workspace.reckon arith store 0 Workspace.empty first).outcome
  let outcomeY := (Workspace.reckon arith store 0 Workspace.empty second).outcome
  have onX : (toX start).2.outcome = Evaluator.assigning x outcomeX :=
    Evaluator.outcome_evaluate_named validX plainX
  have onY : (toY start).2.outcome = Evaluator.assigning y outcomeY :=
    Evaluator.outcome_evaluate_named validY plainY
  have afterX : (toX start).1 = .ofStore (Evaluator.storeAfter store (toX start).2.outcome) := rfl
  have afterY : (toY start).1 = .ofStore (Evaluator.storeAfter store (toY start).2.outcome) := rfl
  rw [onX] at afterX
  rw [onY] at afterY
  have sameX : yx.2 = (toX start).2 := by
    show (toX (toY start).1).2 = _
    rw [afterY]
    refine Evaluator.evaluate_named_of_lookup validX plainX fun name mentioned => ?_
    refine Evaluator.lookup_storeAfter_of_ne ?_ store outcomeY
    rintro rfl
    exact awayY mentioned
  have sameY : xy.2 = (toY start).2 := by
    show (toY (toX start).1).2 = _
    rw [afterX]
    refine Evaluator.evaluate_named_of_lookup validY plainY fun name mentioned => ?_
    refine Evaluator.lookup_storeAfter_of_ne ?_ store outcomeX
    rintro rfl
    exact awayX mentioned
  have finalXY : xy.1.store = Evaluator.storeAfter (toX start).1.store xy.2.outcome := rfl
  have finalYX : yx.1.store = Evaluator.storeAfter (toY start).1.store yx.2.outcome := rfl
  rw [sameY, onY, afterX] at finalXY
  rw [sameX, onX, afterY] at finalYX
  refine ⟨sameX, sameY, ?_⟩
  simp only [isNew, finalXY, finalYX]
  exact Evaluator.storeAfter_exchange apart store outcomeX outcomeY

/-- `a = a * 2` and `e = e + 1` leave the same listing in either order, as `e` was there
before. `a = a * 2` and `b = 7` do not: both are added. -/
theorem evaluate_exchange_bound :
    let assign := fun (name : String) (expression : List Token) (store : Store Float) =>
      ((Evaluator.ofStore store).evaluate .binary64
        (.identifier name :: .equals :: expression)).1.store
    let doubled : List Token := [.identifier "a", .operator .mul, .number "2"]
    let raised : List Token := [.identifier "e", .operator .add, .number "1"]
    "a" ≠ "e" ∧ Token.isVariableName "a" = true ∧ Token.isVariableName "e" = true ∧
      .equals ∉ doubled ∧ .equals ∉ raised ∧ .identifier "e" ∉ doubled ∧
      .identifier "a" ∉ raised ∧
      assign "e" raised (assign "a" doubled Store.seeded) =
        assign "a" doubled (assign "e" raised Store.seeded) ∧
      assign "b" [.number "7"] (assign "a" doubled Store.seeded) ≠
        assign "a" doubled (assign "b" [.number "7"] Store.seeded) := by
  intro assign doubled raised
  have isNameA : Token.isVariableName "a" = true := rfl
  have isNameE : Token.isVariableName "e" = true := rfl
  have plainA : .equals ∉ doubled := by decide
  have plainE : .equals ∉ raised := by decide
  have awayE : .identifier "e" ∉ doubled := by decide
  have awayA : .identifier "a" ∉ raised := by decide
  obtain ⟨-, -, -, -, inPlace⟩ := evaluate_exchange .binary64 Store.seeded (by decide) isNameA
    isNameE plainA plainE awayE awayA
  have isNameB : Token.isVariableName "b" = true := rfl
  have plainB : .equals ∉ [Token.number "7"] := by decide
  have awayB : .identifier "b" ∉ doubled := by decide
  obtain ⟨-, -, -, -, added⟩ := evaluate_exchange .binary64 Store.seeded (by decide) isNameA
    isNameB plainA plainB awayB (by decide)
  refine ⟨by decide, isNameA, isNameE, plainA, plainE, awayE, awayA, ?_, fun same => ?_⟩
  · refine inPlace.mpr fun both => both.2.1 ?_
    decide
  · refine added.mp same ⟨⟨?_, ?_⟩, ?_, ?_⟩ <;> decide +kernel

end Calculator
