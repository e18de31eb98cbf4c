import Calculator.Proofs.Session.Runs

/-!
# Leaving lines out

Nothing of a line stays in a session but the variable that it assigns to. So
lines that assign nothing can be left out of a run, any of them and in any
combination: all other lines get the replies they got, and the session in the
end is the same.

Results:
1. `Session.execute_of_not_assigned`: a line that assigns nothing leaves the
   session as it was.
2. `executeAll_omit`: a run without some of these lines.
-/

namespace Calculator

def keepAt {β : Type} (kept : Nat → Bool) : List β → List β
  | [] => []
  | b :: bs =>
    if kept 0 then b :: keepAt (fun i => kept (i + 1)) bs else keepAt (fun i => kept (i + 1)) bs

namespace Session

/-- A line that assigns nothing leaves the session as it was. -/
theorem execute_of_not_assigned {store : Store Float} {line : String}
    (none : ((ofStore store).execute line).2.response.isAssigned = false) :
    ((ofStore store).execute line).1 = ofStore store := by
  rw [execute_fst, Response.storeAfter_of_not_assigned none]

/-- No line that is left out is answered by an assignment. -/
def Harmless (s : Session) (lines : List String) (kept : Nat → Bool) : Prop :=
  ∀ i reply, (s.executeAll lines).2[i]? = some reply → kept i = false →
    reply.response.isAssigned = false

theorem Harmless.cons {s : Session} {line : String} {lines : List String} {kept : Nat → Bool}
    (harmless : s.Harmless (line :: lines) kept) :
    (kept 0 = false → (s.execute line).2.response.isAssigned = false) ∧
      (s.execute line).1.Harmless lines fun i => kept (i + 1) := by
  unfold Harmless at harmless ⊢
  rw [executeAll_cons] at harmless
  constructor
  · exact harmless 0 _ List.getElem?_cons_zero
  · intro i reply found
    exact harmless (i + 1) reply (List.getElem?_cons_succ.trans found)

theorem executeAll_keepAt (store : Store Float) {lines : List String} {kept : Nat → Bool}
    (harmless : (ofStore store).Harmless lines kept) :
    (ofStore store).executeAll (keepAt kept lines) =
      (((ofStore store).executeAll lines).1, keepAt kept ((ofStore store).executeAll lines).2) := by
  induction lines generalizing store kept with
  | nil => rfl
  | cons line lines ih =>
    let next := ((ofStore store).execute line).2.response.storeAfter store
    have after : ((ofStore store).execute line).1 = ofStore next := execute_fst store line
    obtain ⟨unassigned, later⟩ := harmless.cons
    rw [after] at later
    have rest := ih next later
    cases first : kept 0 with
    | true =>
      rw [keepAt, if_pos first, executeAll_cons, executeAll_cons, after, rest, keepAt,
        if_pos first]
    | false =>
      have same : ofStore next = ofStore store :=
        after.symm.trans (execute_of_not_assigned (unassigned first))
      have apart : ¬ kept 0 = true := by rw [first]; decide
      rw [same] at rest after
      rw [keepAt, if_neg apart, executeAll_cons, after, rest, keepAt, if_neg apart]

end Session

/-- If no line that is left out was answered by an assignment in the full run,
where every line has a reply, the run of the kept lines gives each of them the
reply that it had there, and ends in the same session. -/
theorem executeAll_omit {lines : List String} {kept : Nat → Bool}
    (harmless : ∀ i reply, (Session.start.executeAll lines).2[i]? = some reply →
      kept i = false → reply.response.isAssigned = false) :
    let full := Session.start.executeAll lines
    let short := Session.start.executeAll (keepAt kept lines)
    full.2.length = lines.length ∧ short.2 = keepAt kept full.2 ∧ short.1 = full.1 := by
  intro full short
  have same : short = (full.1, keepAt kept full.2) :=
    Session.executeAll_keepAt Store.seeded harmless
  refine ⟨Session.length_executeAll Session.start lines, ?_⟩
  rw [same]
  exact ⟨rfl, rfl⟩

/-- A line that fails after it has taken operands and a list of the variables
are left out between an assignment and a use of its variable. -/
theorem executeAll_omit_between :
    let lines := ["x = 2", "x * (3 +", "l", "x ^ x"]
    let kept : Nat → Bool := fun i => i % 3 = 0
    (∀ i reply, (Session.start.executeAll lines).2[i]? = some reply → kept i = false →
        reply.response.isAssigned = false) ∧
      (Session.start.executeAll ["x = 2", "x ^ x"]).2 =
        keepAt kept (Session.start.executeAll lines).2 := by
  intro lines kept
  have answers : ((Session.start.executeAll lines).2.map fun reply => reply.response.isAssigned) =
      [true, false, false, false] := by decide +kernel
  have harmless : ∀ i reply, (Session.start.executeAll lines).2[i]? = some reply →
      kept i = false → reply.response.isAssigned = false := by
    intro i reply found leftOut
    have answer : [true, false, false, false][i]? = some reply.response.isAssigned := by
      rw [← answers, List.getElem?_map, found]
      rfl
    cases i with
    | zero => cases leftOut
    | succ i =>
      have member : reply.response.isAssigned ∈ [false, false, false] :=
        List.mem_of_getElem? answer
      simpa using member
  have keeps : keepAt kept lines = ["x = 2", "x ^ x"] := rfl
  have replies := (executeAll_omit harmless).2.1
  rw [keeps] at replies
  exact ⟨harmless, replies⟩

end Calculator
