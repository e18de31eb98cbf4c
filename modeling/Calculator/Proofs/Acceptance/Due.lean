import Calculator.Evaluator.Workspace

/-!
# When an operator is due

An operator waits until a token has it applied. Which token this is follows
from the line alone: the parenthesis that closes the innermost group around the
operator, or the first later operator of that group that is not `^` and binds
no more tightly. If there is neither, it is the end of the line.

`due` says this with the positions of groups. `scan` finds the same place in
one look at the tokens that follow, with a count of the groups opened since.

Results:
1. `balanced_iff_balancedFrom`: balance by counting and balance by scanning.
2. `due_eq_scan`: in a balanced line the two ways to find the place agree.
3. `map_due_operatorPlaces`: the places where the operators of a balanced line
   are due, collected by recursion on the tokens.
-/

namespace Calculator

namespace Token

def isOperand : Token → Bool
  | number _ | identifier _ => true
  | _ => false

def isOperator : Token → Bool
  | operator _ => true
  | _ => false

end Token

namespace Line

/-! ## Groups -/

/-- No part from the start has more closing than opening parentheses, and the
line has as many of both. -/
def Balanced (tokens : List Token) : Prop :=
  (∀ n, (tokens.take n).count .closing ≤ (tokens.take n).count .opening) ∧
    tokens.count .closing = tokens.count .opening

/-- The open groups after one more token. A group is named by the position of
its opening parenthesis, and the innermost comes first. -/
def groupsAfter (position : Nat) (groups : List Nat) : Token → List Nat
  | .opening => position :: groups
  | .closing => groups.tail
  | _ => groups

def openGroups (position : Nat) (groups : List Nat) : List Token → List Nat
  | [] => groups
  | token :: tokens => openGroups (position + 1) (groupsAfter position groups token) tokens

/-- The innermost group around a place. -/
def group? (tokens : List Token) (place : Nat) : Option Nat :=
  (openGroups 0 [] (tokens.take place)).head?

/-! ## Places -/

def operatorPlaces (tokens : List Token) : List Nat :=
  (List.range tokens.length).filter fun place => tokens[place]?.any Token.isOperator

/-- Whether the token at a later place has the operator at `place` applied. -/
def calls (tokens : List Token) (place later : Nat) : Bool :=
  match tokens[place]?, tokens[later]? with
  | some (.operator _), some .closing =>
    (group? tokens place).isSome && group? tokens later == group? tokens place
  | some (.operator op), some (.operator next) =>
    group? tokens later == group? tokens place && next ≠ .pow && next.level ≤ op.level
  | _, _ => false

/-- The first later place whose token has the operator at `place` applied, or
the end of the line. -/
def due (tokens : List Token) (place : Nat) : Nat :=
  ((List.range' (place + 1) (tokens.length - (place + 1))).find? (calls tokens place)).getD
    tokens.length

/-! ## Scanning -/

/-- Balance of the rest of a line in which some groups are open. -/
def BalancedFrom : Nat → List Token → Prop
  | depth, [] => depth = 0
  | depth, .opening :: tokens => BalancedFrom (depth + 1) tokens
  | depth, .closing :: tokens => depth ≠ 0 ∧ BalancedFrom (depth - 1) tokens
  | depth, .number _ :: tokens | depth, .identifier _ :: tokens | depth, .operator _ :: tokens
  | depth, .equals :: tokens | depth, .ignored :: tokens => BalancedFrom depth tokens

/-- The place where an operator is due that stands before these tokens, when
`depth` groups have been opened since. -/
def scan (op : Operator) (depth position : Nat) : List Token → Nat
  | [] => position
  | .opening :: tokens => scan op (depth + 1) (position + 1) tokens
  | .closing :: tokens =>
    if depth = 0 then position else scan op (depth - 1) (position + 1) tokens
  | .operator next :: tokens =>
    if depth = 0 ∧ next.unwinds (.operator op) = true then position
    else scan op depth (position + 1) tokens
  | .number _ :: tokens | .identifier _ :: tokens | .equals :: tokens | .ignored :: tokens =>
    scan op depth (position + 1) tokens

def dues (position : Nat) : List Token → List Nat
  | [] => []
  | .operator op :: tokens => scan op 0 (position + 1) tokens :: dues (position + 1) tokens
  | .number _ :: tokens | .identifier _ :: tokens | .opening :: tokens | .closing :: tokens
  | .equals :: tokens | .ignored :: tokens => dues (position + 1) tokens

theorem le_scan (op : Operator) (depth position : Nat) (tokens : List Token) :
    position ≤ scan op depth position tokens := by
  induction tokens generalizing depth position with
  | nil => exact Nat.le_refl position
  | cons token tokens ih =>
    have further : ∀ depth, position ≤ scan op depth (position + 1) tokens :=
      fun depth => Nat.le_of_succ_le (ih depth (position + 1))
    cases token with
    | opening => exact further _
    | closing =>
      unfold scan
      split
      · exact Nat.le_refl position
      · exact further _
    | operator next =>
      unfold scan
      split
      · exact Nat.le_refl position
      · exact further _
    | number _ | identifier _ | equals | ignored => exact further _

theorem le_of_mem_dues {position place : Nat} {tokens : List Token}
    (member : place ∈ dues position tokens) : position ≤ place := by
  induction tokens generalizing position with
  | nil => cases member
  | cons token tokens ih =>
    cases token with
    | operator op =>
      rcases List.mem_cons.mp member with rfl | later
      · exact Nat.le_of_succ_le (le_scan op 0 (position + 1) tokens)
      · exact Nat.le_of_succ_le (ih later)
    | number _ | identifier _ | opening | closing | equals | ignored =>
      exact Nat.le_of_succ_le (ih member)

/-! ## Balance -/

theorem balancedFrom_iff (depth : Nat) (tokens : List Token) :
    BalancedFrom depth tokens ↔
      (∀ n, (tokens.take n).count .closing ≤ depth + (tokens.take n).count .opening) ∧
        tokens.count .closing = depth + tokens.count .opening := by
  induction tokens generalizing depth with
  | nil => simp [BalancedFrom, eq_comm]
  | cons token tokens ih =>
    have longer : ∀ bound : List Token → Prop, bound [] →
        ((∀ n, bound ((token :: tokens).take n)) ↔ ∀ n, bound (token :: tokens.take n)) := by
      intro bound empty
      refine ⟨fun all n => all (n + 1), fun all n => ?_⟩
      cases n with
      | zero => exact empty
      | succ n => exact all n
    rw [longer (fun part => part.count .closing ≤ depth + part.count .opening) (by simp)]
    cases token with
    | opening =>
      simp only [BalancedFrom, ih, List.count_cons]
      simp [Nat.add_assoc, Nat.add_comm 1]
    | closing =>
      simp only [BalancedFrom, ih, List.count_cons]
      constructor
      · rintro ⟨positive, parts, whole⟩
        refine ⟨fun n => ?_, ?_⟩
        · have part := parts n
          simp
          omega
        · simp
          omega
      · rintro ⟨parts, whole⟩
        -- The part that is this token alone shows that a group is open.
        have first := parts 0
        simp at first whole
        refine ⟨by omega, fun n => ?_, by omega⟩
        have part := parts n
        simp at part
        omega
    | number _ | identifier _ | operator _ | equals | ignored =>
      simp [BalancedFrom, ih]

theorem balanced_iff_balancedFrom {tokens : List Token} :
    Balanced tokens ↔ BalancedFrom 0 tokens := by
  rw [balancedFrom_iff]
  simp [Balanced]

theorem openGroups_append (position : Nat) (groups : List Nat) (tokens more : List Token) :
    openGroups position groups (tokens ++ more) =
      openGroups (position + tokens.length) (openGroups position groups tokens) more := by
  induction tokens generalizing position groups with
  | nil => rfl
  | cons token tokens ih =>
    rw [List.cons_append, openGroups, ih, openGroups, List.length_cons, Nat.add_assoc,
      Nat.add_comm 1]

theorem BalancedFrom.rest {position : Nat} {groups : List Nat} {tokens more : List Token}
    (balanced : BalancedFrom groups.length (tokens ++ more)) :
    BalancedFrom (openGroups position groups tokens).length more := by
  induction tokens generalizing position groups with
  | nil => exact balanced
  | cons token tokens ih =>
    refine ih ?_
    cases token with
    | closing =>
      rw [groupsAfter, List.length_tail]
      exact balanced.2
    | number _ | identifier _ | operator _ | opening | equals | ignored => exact balanced

theorem mem_openGroups {position : Nat} {groups : List Nat} {tokens : List Token} {group : Nat}
    (member : group ∈ openGroups position groups tokens) :
    group ∈ groups ∨ group < position + tokens.length := by
  induction tokens generalizing position groups with
  | nil => exact .inl member
  | cons token tokens ih =>
    rw [List.length_cons]
    rcases ih member with here | later
    · cases token with
      | opening =>
        rcases List.mem_cons.mp here with rfl | before
        · exact .inr (by omega)
        · exact .inl before
      | closing => exact .inl (List.mem_of_mem_tail here)
      | number _ | identifier _ | operator _ | equals | ignored => exact .inl here
    · exact .inr (by omega)

/-! ## The two ways to find a place -/

/-- How far a look from the operator `op` at `place` has come: over the tokens
of `before`. The groups `inner` were opened after the operator and are open
still; the groups `around` are those in which the operator stands. -/
structure Look (tokens : List Token) (place : Nat) (op : Operator) (before : List Token)
    (inner around : List Nat) : Prop where
  operator : tokens[place]? = some (.operator op)
  surrounding : openGroups 0 [] (tokens.take place) = around
  groups : openGroups 0 [] before = inner ++ around
  inside : ∀ group ∈ inner, place < group
  outside : ∀ group ∈ around, group < place
  past : place < before.length

variable {tokens before rest : List Token} {place : Nat} {op : Operator} {inner around : List Nat}

theorem Look.start (before : List Token) (op : Operator) (rest : List Token) :
    Look (before ++ .operator op :: rest) before.length op (before ++ [.operator op]) []
      (openGroups 0 [] before) where
  operator := by simp
  surrounding := by rw [List.take_left]
  groups := openGroups_append 0 [] before [.operator op]
  inside := by simp
  outside := by
    intro group member
    rcases mem_openGroups member with none | below
    · cases none
    · omega
  past := by simp

/-- A group in which the operator stands is not mistaken for one opened since. -/
theorem Look.group_beq (look : Look tokens place op before inner around)
    (whole : tokens = before ++ rest) :
    (group? tokens before.length == group? tokens place) = inner.isEmpty := by
  have reached : group? tokens before.length = (inner ++ around).head? := by
    rw [group?, whole, List.take_left, look.groups]
  have standing : group? tokens place = around.head? := by rw [group?, look.surrounding]
  rw [reached, standing]
  cases inner with
  | nil => simp
  | cons group inner =>
    have past : place < group := look.inside group List.mem_cons_self
    have apart : around.head? ≠ some group := by
      intro same
      have before := look.outside group (List.mem_of_mem_head? same)
      omega
    simp [apart.symm]

theorem Look.next (look : Look tokens place op before inner around) {token : Token}
    {later : List Nat}
    (groups : groupsAfter before.length (inner ++ around) token = later ++ around)
    (inside : ∀ group ∈ later, place < group) :
    Look tokens place op (before ++ [token]) later around where
  operator := look.operator
  surrounding := look.surrounding
  groups := by
    rw [openGroups_append, look.groups, Nat.zero_add]
    exact groups
  inside := inside
  outside := look.outside
  past := by
    have past := look.past
    rw [List.length_append]
    omega

/-- The first place whose token calls for the operator is the one that the scan
finds. The induction is on the tokens that are left to look at. -/
theorem Look.find (look : Look tokens place op before inner around)
    (whole : tokens = before ++ rest) (balanced : BalancedFrom (inner ++ around).length rest) :
    ((List.range' before.length rest.length).find? (calls tokens place)).getD tokens.length =
      scan op inner.length before.length rest := by
  induction rest generalizing before inner with
  | nil => simp [whole, scan]
  | cons token rest ih =>
    have here : tokens[before.length]? = some token := by simp [whole]
    have same := look.group_beq whole
    have further : ∀ later : List Nat,
        groupsAfter before.length (inner ++ around) token = later ++ around →
        (∀ group ∈ later, place < group) → BalancedFrom (later ++ around).length rest →
        ((List.range' (before.length + 1) rest.length).find? (calls tokens place)).getD
          tokens.length = scan op later.length (before.length + 1) rest := by
      intro later groups inside balanced
      have found := ih (look.next groups inside) (by simp [whole]) balanced
      rw [List.length_append] at found
      exact found
    rw [List.length_cons, List.range'_succ, List.find?_cons]
    cases token with
    | opening =>
      have silent : calls tokens place before.length = false := by
        simp [calls, look.operator, here]
      rw [silent]
      refine further (before.length :: inner) rfl ?_ balanced
      exact List.forall_mem_cons.mpr ⟨look.past, look.inside⟩
    | closing =>
      cases inner with
      | nil =>
        have enclosed : (group? tokens place).isSome = true := by
          have opened : around ≠ [] := by
            rintro rfl
            exact balanced.1 rfl
          rw [group?, look.surrounding, List.isSome_head?]
          simpa using opened
        have called : calls tokens place before.length = true := by
          simpa [calls, look.operator, here, enclosed] using same
        rw [called]
        rfl
      | cons group inner =>
        have silent : calls tokens place before.length = false := by
          simp [calls, look.operator, here, same]
        rw [silent]
        refine further inner rfl ?_ balanced.2
        exact (List.forall_mem_cons.mp look.inside).2
    | operator next =>
      have called : calls tokens place before.length =
          (inner.isEmpty && next.unwinds (.operator op)) := by
        simp [calls, look.operator, here, same, Operator.unwinds_operator, Bool.and_assoc]
      rw [called, scan]
      cases inner with
      | nil =>
        cases next.unwinds (.operator op) with
        | true => rfl
        | false => simpa using further [] rfl look.inside balanced
      | cons group inner => simpa using further (group :: inner) rfl look.inside balanced
    | number _ | identifier _ | equals | ignored =>
      have silent : calls tokens place before.length = false := by
        simp [calls, look.operator, here]
      rw [silent]
      exact further inner rfl look.inside balanced

/-- In a balanced line an operator is due where the scan of the tokens after it
finds its place. -/
theorem due_eq_scan (balanced : BalancedFrom 0 (before ++ .operator op :: rest)) :
    due (before ++ .operator op :: rest) before.length = scan op 0 (before.length + 1) rest := by
  have opened : BalancedFrom (openGroups 0 [] before).length (.operator op :: rest) :=
    BalancedFrom.rest balanced
  have whole : before ++ .operator op :: rest = before ++ [.operator op] ++ rest := by simp
  have found := (Look.start before op rest).find whole opened
  have left : (before ++ .operator op :: rest).length - (before.length + 1) = rest.length := by
    simp
    omega
  rw [due, left]
  rw [List.length_append] at found
  exact found

theorem map_due_places (before rest : List Token) (balanced : BalancedFrom 0 (before ++ rest)) :
    ((List.range' before.length rest.length).filter fun place =>
        (before ++ rest)[place]?.any Token.isOperator).map (due (before ++ rest)) =
      dues before.length rest := by
  induction rest generalizing before with
  | nil => rfl
  | cons token rest ih =>
    have here : (before ++ token :: rest)[before.length]? = some token := by simp
    have further := ih (before ++ [token]) (by simpa using balanced)
    rw [List.length_append, List.append_assoc] at further
    rw [List.length_cons, List.range'_succ]
    cases token with
    | operator op =>
      rw [List.filter_cons_of_pos (by rw [here]; rfl), List.map_cons, due_eq_scan balanced]
      exact congrArg _ further
    | number _ | identifier _ | opening | closing | equals | ignored =>
      rw [List.filter_cons_of_neg (by rw [here]; exact Bool.false_ne_true)]
      exact further

/-- The places where the operators of a balanced line are due. -/
theorem map_due_operatorPlaces (balanced : BalancedFrom 0 tokens) :
    (operatorPlaces tokens).map (due tokens) = dues 0 tokens := by
  have all := map_due_places [] tokens balanced
  rw [operatorPlaces, List.range_eq_range']
  exact all

end Line

end Calculator
