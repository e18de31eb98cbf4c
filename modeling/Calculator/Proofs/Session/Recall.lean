import Calculator.Proofs.Scan.Written
import Calculator.Proofs.Session.Names
import Calculator.Proofs.Store.Recorded

/-!
# Reading a variable back

What a session answers tells all that it keeps: the value of a variable is the
one that the last assignment to it was answered with. A name in parentheses is
a line that reads it, also where the bare name is a command.

Results:
1. `Session.lookup_executeAll`: the value of a variable after a run, from the
   replies of the run.
2. `Session.execute_parenthesized`: the answer to a name in parentheses.
3. `recall_last_assigned`: what a variable reads as after a run, and what a
   listing says of it.
-/

namespace Calculator

/-- The value that a response says a variable was assigned. -/
def Response.assignedTo? (name : String) : Response → Option Float
  | assigned other x => if name = other then some x else none
  | _ => none

/-- The value in the last reply that says a variable was assigned one. -/
def lastAssigned? (name : String) (replies : List Reply) : Option Float :=
  replies.reverse.findSome? fun reply => reply.response.assignedTo? name

theorem lastAssigned?_cons (name : String) (reply : Reply) (replies : List Reply) :
    lastAssigned? name (reply :: replies) =
      (lastAssigned? name replies).or (reply.response.assignedTo? name) := by
  unfold lastAssigned?
  rw [List.reverse_cons, List.findSome?_append, List.findSome?_singleton]

namespace Store

theorem lookup_seeded (name : String) :
    seeded.lookup name =
      if name = "pi" then some 3.141592653589793
      else if name = "e" then some 2.718281828459045 else none := by
  unfold seeded
  rw [lookup_bind, lookup_bind]
  by_cases pi : name = "pi"
  · rw [pi]
    rfl
  · rw [if_neg pi, if_neg pi]
    rfl

end Store

namespace Session

/-! ## Values after a run -/

theorem lookup_storeAfter (store : Store Float) (response : Response) (name : String) :
    (response.storeAfter store).lookup name =
      (response.assignedTo? name).or (store.lookup name) := by
  cases response with
  | assigned other x =>
    rw [Response.storeAfter, Response.assignedTo?, Store.lookup_bind]
    split
    · rfl
    · rfl
  | help | quit | listing _ | value _ | invalid => rfl

/-- After a run a variable has the value of the last assignment to it, or the
one it had before. -/
theorem lookup_executeAll (store : Store Float) (lines : List String) (name : String) :
    ((ofStore store).executeAll lines).1.store.lookup name =
      (lastAssigned? name ((ofStore store).executeAll lines).2).or (store.lookup name) := by
  induction lines generalizing store with
  | nil => rfl
  | cons line lines ih =>
    rw [executeAll_cons, execute_fst, ih, lookup_storeAfter, lastAssigned?_cons, Option.or_assoc]

/-! ## Lines that read -/

theorem toList_parenthesized (name : String) :
    ("(" ++ name ++ ")").toList = '(' :: (name.toList ++ [')']) := by
  simp [String.toList_append]

theorem scan_parenthesized {name : String} (nonempty : name.toList ≠ [])
    (letters : ∀ c ∈ name.toList, c.isAlpha = true) :
    Token.scan ("(" ++ name ++ ")") = .ok [.opening, .identifier name, .closing] := by
  have written : (Token.identifier name).IsWritten := by
    refine ⟨fun c member => ?_, ?_⟩
    · simp [Token.isWordChar, Char.isAlphanum, letters c member]
    · obtain ⟨c, member⟩ := List.exists_mem_of_ne_nil _ nonempty
      exact ⟨c, member, letters c member⟩
  have ends : ∀ c ∈ [')'].head?, Token.isWordChar c = false := by
    rintro _ ⟨⟩
    decide
  have opened : Token.ofSymbol? '(' = some .opening := rfl
  have closed : Token.ofSymbol? ')' = some .closing := rfl
  have word := Token.scanFrom_text (0 + '('.utf8Size) written ends
  rw [Token.text] at word
  rw [Token.scan, toList_parenthesized, Token.scanFrom_symbol 0 opened, word,
    Token.scanFrom_symbol _ closed, Token.scanFrom]
  rfl

/-- A name in parentheses is no command, and reads the variable. -/
theorem execute_parenthesized (store : Store Float) {name : String}
    (nonempty : name.toList ≠ []) (letters : ∀ c ∈ name.toList, c.isAlpha = true) :
    ((ofStore store).execute ("(" ++ name ++ ")")).2.response =
      .value ((store.lookup name).getD 0.0) := by
  have trimmed : Text.trim ("(" ++ name ++ ")") = "(" ++ name ++ ")" := by
    refine Text.trim_of_ends ?_ ?_
    · rw [toList_parenthesized]
      rintro _ ⟨⟩
      decide
    · rw [toList_parenthesized, ← List.cons_append, List.getLast?_concat]
      rintro _ ⟨⟩
      decide
  have other : ∀ letter : Char, letter ≠ '(' → "(" ++ name ++ ")" ≠ letter.toString := by
    intro letter apart same
    have first := congrArg (fun s => s.toList.head?) same
    simp [apart.symm] at first
  have command : Command.ofLine ("(" ++ name ++ ")") = .evaluate ("(" ++ name ++ ")") :=
    Command.ofLine_of_trim trimmed
      ⟨other 'h' (by decide), other 'q' (by decide), other 'l' (by decide)⟩
  obtain ⟨-, response⟩ :=
    execute_of_scan (ofStore store) command (scan_parenthesized nonempty letters)
  rw [response]
  rfl

theorem execute_list (s : Session) : (s.execute "l").2.response = .listing s.store.bindings := by
  have command : Command.ofLine "l" = .list := by decide +kernel
  rw [execute, command]

end Session

/-- After any run a name in parentheses is answered by the value of the last
assignment to it, by the seeded value if there was none, and by zero if there is
neither. A listing has the name once, with this value, or in the last case not at
all. -/
theorem recall_last_assigned (lines : List String) {name : String}
    (nonempty : name.toList ≠ []) (letters : ∀ c ∈ name.toList, c.isAlpha = true) :
    let run := Session.start.executeAll lines
    let seeded? : Option Float :=
      if name = "pi" then some 3.141592653589793
      else if name = "e" then some 2.718281828459045 else none
    let known? := (lastAssigned? name run.2).or seeded?
    (run.1.execute ("(" ++ name ++ ")")).2.response = .value (known?.getD 0.0) ∧
      ∃ bindings, (run.1.execute "l").2.response = .listing bindings ∧
        bindings.filter (fun b => b.name = name) = (known?.map (Binding.mk name)).toList := by
  intro run seeded? known?
  have known : run.1.store.lookup name = known? := by
    change (Session.start.executeAll lines).1.store.lookup name = _
    rw [show Session.start = Session.ofStore Store.seeded from rfl, Session.lookup_executeAll,
      Store.lookup_seeded]
    rfl
  obtain ⟨store, reached, named⟩ := Session.named_executeAll lines
  change run.1 = _ at reached
  rw [← known, reached]
  exact ⟨Session.execute_parenthesized store nonempty letters, _,
    Session.execute_list (Session.ofStore store), Store.filter_name named.distinct name⟩

/-- The letter of a command is a name as well: `h` alone asks for help, and the
line that fails changes nothing. -/
theorem recall_last_assigned_letter :
    let s := (Session.start.executeAll ["h = 1", "h = 2", "h", "h = (3", "e = h"]).1
    "h".toList ≠ [] ∧ (∀ c ∈ "h".toList, c.isAlpha = true) ∧
      (s.execute "(h)").2.response = .value 2 ∧
      ∃ bindings, (s.execute "l").2.response = .listing bindings ∧
        bindings.filter (fun b => b.name = "h") = [⟨"h", 2⟩] := by
  intro s
  have nonempty : "h".toList ≠ [] := by simp
  have letters : ∀ c ∈ "h".toList, c.isAlpha = true := by simp
  have last : lastAssigned? "h"
      (Session.start.executeAll ["h = 1", "h = 2", "h", "h = (3", "e = h"]).2 = some 2 := by
    decide +kernel
  obtain ⟨answer, bindings, listed, once⟩ :=
    recall_last_assigned ["h = 1", "h = 2", "h", "h = (3", "e = h"] nonempty letters
  rw [last] at answer once
  exact ⟨nonempty, letters, answer, bindings, listed, once⟩

end Calculator
