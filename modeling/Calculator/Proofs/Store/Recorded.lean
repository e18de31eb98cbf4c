import Calculator.Evaluator.Basic
import Mathlib.Data.Finset.Card
import Mathlib.Data.List.Basic

/-!
# The store as a map in the order of first bindings

A binding and a lookup search the entries from the front and stop at the first one
that fits. Nothing in a store keeps a name from being there twice. It is not, because a
binding adds a name only where its search has come to the end; and so the entry that a
lookup finds is the only one for the name, and an entry never changes its place.

Results:
1. `Store.Records.bind`, `Store.Records.bindAll`: one more binding, and any number of them.
2. `Store.filter_name`: where all names are different, a listing has one entry for a name
   that is bound.
3. `bindAll_recorded`: the entries after any bindings, from their names and values.
-/

namespace Calculator

variable {α : Type}

/-- The value that was bound to a name last, by bindings one after the other. -/
def lastBound? (name : String) (history : List (Binding α)) : Option α :=
  (history.reverse.find? fun b => b.name = name).map (·.value)

/-- `store.Records history`: the store has an entry for each name that was bound, in the
order of the first binding of each, and reads the value of the last. -/
structure Store.Records (store : Store α) (history : List (Binding α)) : Prop where
  bound : ∀ name, name ∈ store.names ↔ name ∈ history.map (·.name)
  inOrder : store.names.Pairwise fun a b =>
    (history.map (·.name)).idxOf a < (history.map (·.name)).idxOf b
  latest : ∀ name, store.lookup name = lastBound? name history

theorem lastBound?_concat (history : List (Binding α)) (b : Binding α) (name : String) :
    lastBound? name (history ++ [b]) =
      if name = b.name then some b.value else lastBound? name history := by
  unfold lastBound?
  rw [List.reverse_concat, List.find?_cons]
  by_cases same : b.name = name
  · simp [same]
  · have apart : name ≠ b.name := fun e => same e.symm
    simp [same, apart]

/-- What comes after does not change which of two comes first. -/
theorem idxOf_lt_append {names : List String} {a b : String} (first : a ∈ names)
    (second : b ∈ names) (more : List String) (before : names.idxOf a < names.idxOf b) :
    (names ++ more).idxOf a < (names ++ more).idxOf b := by
  rwa [List.idxOf_append_of_mem first, List.idxOf_append_of_mem second]

theorem idxOf_lt_concat {names : List String} {a b : String} (member : a ∈ names)
    (new : b ∉ names) : (names ++ [b]).idxOf a < (names ++ [b]).idxOf b := by
  rw [List.idxOf_append_of_mem member, List.idxOf_append_of_notMem new]
  exact Nat.lt_add_right _ (List.idxOf_lt_length_of_mem member)

namespace Store

/-! ## Names that are all different -/

theorem filter_name_eq_nil {name : String} {bindings : List (Binding α)}
    (absent : name ∉ bindings.map (·.name)) :
    bindings.filter (fun b => b.name = name) = [] := by
  refine List.filter_eq_nil_iff.mpr fun b member named => absent ?_
  rw [← of_decide_eq_true named]
  exact List.mem_map_of_mem member

/-- Where all names are different, a name that is bound is listed once, with its
value, and any other name is not listed. -/
theorem filter_name {store : Store α} (distinct : store.names.Nodup) (name : String) :
    store.bindings.filter (fun b => b.name = name) =
      ((store.lookup name).map (Binding.mk name)).toList := by
  obtain ⟨bindings⟩ := store
  change (bindings.map (·.name)).Nodup at distinct
  change _ = ((valueOf? name bindings).map (Binding.mk name)).toList
  induction bindings with
  | nil => rfl
  | cons b bs ih =>
    obtain ⟨first, later⟩ := List.nodup_cons.mp distinct
    by_cases bound : b.name = name
    · subst bound
      rw [List.filter_cons_of_pos (by simp), filter_name_eq_nil first, valueOf?, if_pos rfl]
      rfl
    · rw [List.filter_cons_of_neg (by simp [bound]), ih later, valueOf?, if_neg bound]

/-- Where all names are different, each entry is the one that its name reads. -/
theorem lookup_of_mem {store : Store α} (distinct : store.names.Nodup) {b : Binding α}
    (member : b ∈ store.bindings) : store.lookup b.name = some b.value := by
  have listed : b ∈ store.bindings.filter fun other => other.name = b.name :=
    List.mem_filter.mpr ⟨member, decide_eq_true rfl⟩
  rw [filter_name distinct, Option.mem_toList] at listed
  obtain ⟨value, found, same⟩ := Option.map_eq_some_iff.mp listed
  rw [found, ← same]

/-! ## One binding after another -/

namespace Records

variable {store : Store α} {history : List (Binding α)}

theorem nodup (records : store.Records history) : store.names.Nodup := by
  refine records.inOrder.imp ?_
  rintro name _ before rfl
  exact Nat.lt_irrefl _ before

theorem empty : (Store.empty : Store α).Records [] where
  bound _ := Iff.rfl
  inOrder := .nil
  latest _ := rfl

/-- A name that is bound again keeps its place, and a new one comes last. -/
theorem bind (records : store.Records history) (name : String) (value : α) :
    (store.bind name value).Records (history ++ [⟨name, value⟩]) := by
  obtain ⟨bound, inOrder, latest⟩ := records
  have whole : (history ++ [Binding.mk name value]).map (·.name) =
      history.map (·.name) ++ [name] := List.map_append
  have kept : store.names.Pairwise fun a b =>
      (history.map (·.name) ++ [name]).idxOf a < (history.map (·.name) ++ [name]).idxOf b :=
    inOrder.imp_of_mem fun first second =>
      idxOf_lt_append ((bound _).mp first) ((bound _).mp second) [name]
  refine ⟨fun other => ?bound, ?inOrder, fun other => ?latest⟩
  case bound =>
    rw [whole, List.mem_append, List.mem_singleton, names_bind]
    split
    · next old =>
      rw [bound]
      refine ⟨.inl, ?_⟩
      rintro (member | rfl)
      · exact member
      · exact (bound _).mp old
    · rw [List.mem_append, List.mem_singleton, bound]
  case inOrder =>
    rw [whole, names_bind]
    split
    · exact kept
    · next new =>
      refine List.pairwise_append.mpr ⟨kept, List.pairwise_singleton _ _, ?_⟩
      intro a first b last
      rw [List.mem_singleton.mp last]
      exact idxOf_lt_concat ((bound a).mp first) fun member => new ((bound name).mpr member)
  case latest =>
    rw [lookup_bind, lastBound?_concat, latest]

/-- What holds after some bindings holds after any more of them. -/
theorem bindAll (records : store.Records history) (calls : List (Binding α)) :
    (store.bindAll calls).Records (history ++ calls) := by
  induction calls generalizing store history with
  | nil =>
    rw [List.append_nil]
    exact records
  | cons b calls ih =>
    rw [List.append_cons]
    exact ih (records.bind b.name b.value)

/-- As many entries as different names were bound. -/
theorem size_eq (records : store.Records history) :
    store.size = (history.map (·.name)).toFinset.card := by
  have same : (history.map (·.name)).toFinset = store.names.toFinset := by
    ext name
    rw [List.mem_toFinset, List.mem_toFinset, records.bound]
  rw [same, List.toFinset_card_of_nodup records.nodup]
  exact (List.length_map _).symm

theorem isEmpty_iff (records : store.Records history) :
    store.isEmpty = true ↔ history = [] := by
  have none : store.names = [] ↔ history.map (·.name) = [] := by
    simp only [List.eq_nil_iff_forall_not_mem, records.bound]
  rw [Store.isEmpty, List.isEmpty_iff]
  simpa [names] using none

end Records

end Store

/-- After any bindings, of any names and in any pattern of repeats, a store that started
empty or with the seeded variables lists each name that was bound or seeded once, in the
order of the first binding of each, with the value of its last binding. A lookup gives
that value, and nothing for all other names; the names that are contained, their number
and whether there are any is what these bindings say. -/
theorem bindAll_recorded (calls : List (Binding Float)) :
    let seeds : List (Binding Float) := [⟨"pi", 3.141592653589793⟩, ⟨"e", 2.718281828459045⟩]
    let recorded := fun (store : Store Float) (history : List (Binding Float)) =>
      let names := history.map (·.name)
      store.names.Nodup ∧
        (∀ name, name ∈ store.names ↔ name ∈ names) ∧
        store.names.Pairwise (fun a b => names.idxOf a < names.idxOf b) ∧
        (∀ b ∈ store.bindings, lastBound? b.name history = some b.value) ∧
        (∀ name, store.lookup name = lastBound? name history) ∧
        (∀ name, store.contains name = true ↔ name ∈ names) ∧
        store.size = names.toFinset.card ∧
        (store.isEmpty = true ↔ history = [])
    recorded (Store.empty.bindAll calls) calls ∧
      recorded (Store.seeded.bindAll calls) (seeds ++ calls) := by
  intro seeds recorded
  have each : ∀ {store history}, Store.Records store history → recorded store history := by
    intro store history records
    refine ⟨records.nodup, records.bound, records.inOrder, fun b member => ?_, records.latest,
      fun name => ?_, records.size_eq, records.isEmpty_iff⟩
    · rw [← records.latest, Store.lookup_of_mem records.nodup member]
    · rw [Store.contains_iff, records.bound]
  have seeded : Store.seeded.Records seeds := (Store.Records.empty.bind _ _).bind _ _
  exact ⟨each (Store.Records.empty.bindAll calls), each (seeded.bindAll calls)⟩

/-- `e` is seeded and bound again, and keeps its place before `x`; `x` has its last value. -/
example : (Store.seeded.bindAll [⟨"x", 1⟩, ⟨"e", 2⟩, ⟨"x", 3⟩]).bindings =
    [⟨"pi", 3.141592653589793⟩, ⟨"e", 2⟩, ⟨"x", 3⟩] := rfl

end Calculator
