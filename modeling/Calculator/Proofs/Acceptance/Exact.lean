import Calculator.Proofs.Acceptance.Count
import Calculator.Proofs.Acceptance.Due
import Mathlib.Data.List.Chain

/-!
# The lines that have a value

Operands and operators of a line need not alternate for it to have a value. The
line must be balanced, it must have one operand more than operators, and
wherever operators are due there must be more operands than operators due so
far.

Results:
1. `affords_cons`: this condition before a token and after it.
2. `reduces_iff`: tokens reduce with operands counted iff they are balanced and
   afford all places where operators are due, those of waiting operators and
   those of their own.
3. `evaluate_succeeds_iff`: the lines that have a value.
-/

namespace Calculator

open Workspace Line

variable {α : Type} {arith : Arithmetic α} {store : Store α} {position : Nat}
  {tokens : List Token} {pending : Stack Pending}

/-! ## Operands enough for all places -/

/-- There is one operand more than there are places in the list, and up to each
place there are more operands than places so far. Operands are `count` and those
of the tokens, the first of which stands at `position`. -/
def Affords (count position : Nat) (tokens : List Token) (places : List Nat) : Prop :=
  count + tokens.countP Token.isOperand = places.length + 1 ∧
    ∀ place ∈ places, places.countP (· ≤ place) <
      count + (tokens.take (place - position)).countP Token.isOperand

theorem affords_congr {count : Nat} {places others : List Nat} (same : places.Perm others) :
    Affords count position tokens places ↔ Affords count position tokens others := by
  unfold Affords
  rw [same.length_eq]
  simp only [same.mem_iff, same.countP_eq]

theorem countP_isOperand_cons (token : Token) (tokens : List Token) :
    (token :: tokens).countP Token.isOperand =
      [token].countP Token.isOperand + tokens.countP Token.isOperand := by
  rw [← List.countP_append]
  rfl

theorem countP_take_cons {place : Nat} (past : position < place) (token : Token) :
    ((token :: tokens).take (place - position)).countP Token.isOperand =
      [token].countP Token.isOperand +
        (tokens.take (place - (position + 1))).countP Token.isOperand := by
  have shift : place - position = place - (position + 1) + 1 := by omega
  rw [shift, List.take_succ_cons, countP_isOperand_cons]

theorem countP_le_append {due place : Nat} {later : List Nat} (here : position ≤ place) :
    (List.replicate due position ++ later).countP (· ≤ place) =
      due + later.countP (· ≤ place) := by
  rw [List.countP_append]
  simp [List.countP_replicate, here]

/-- A token at which `due` operators are due: they take as many operands away,
and the token adds one if it is an operand. -/
theorem affords_cons {count due : Nat} {token : Token} {later : List Nat}
    (beyond : ∀ place ∈ later, position < place) :
    Affords count position (token :: tokens) (List.replicate due position ++ later) ↔
      (due = 0 ∨ due < count) ∧
        Affords (count - due + [token].countP Token.isOperand) (position + 1) tokens later := by
  have none : later.countP (· ≤ position) = 0 := by
    rw [List.countP_eq_zero]
    intro place member
    simpa using beyond place member
  have now : (List.replicate due position ++ later).countP (· ≤ position) = due := by
    rw [countP_le_append (Nat.le_refl position), none, Nat.add_zero]
  unfold Affords
  rw [countP_isOperand_cons, List.length_append, List.length_replicate]
  constructor
  · rintro ⟨total, each⟩
    have enough : due = 0 ∨ due < count := by
      rcases Nat.eq_zero_or_pos due with zero | positive
      · exact .inl zero
      · have member : position ∈ List.replicate due position ++ later :=
          List.mem_append_left _ (List.mem_replicate.mpr ⟨Nat.ne_of_gt positive, rfl⟩)
        have here := each position member
        rw [now, Nat.sub_self, List.take_zero, List.countP_nil] at here
        exact .inr here
    refine ⟨enough, by omega, ?_⟩
    intro place member
    have past := beyond place member
    have bound := each place (List.mem_append_right _ member)
    rw [countP_le_append (Nat.le_of_lt past), countP_take_cons past] at bound
    omega
  · rintro ⟨enough, total, each⟩
    refine ⟨by omega, ?_⟩
    intro place member
    rcases List.mem_append.mp member with here | there
    · obtain ⟨some, rfl⟩ := List.mem_replicate.mp here
      rw [now]
      omega
    · have past := beyond place there
      have bound := each place there
      rw [countP_le_append (Nat.le_of_lt past), countP_take_cons past]
      omega

/-! ## Waiting operators -/

/-- The places where waiting operators are due, if these tokens are left and
`depth` groups have been opened above the entries. -/
def waitingDues (depth position : Nat) (tokens : List Token) : Stack Pending → List Nat
  | [] => []
  | .operator op :: pending =>
    scan op depth position tokens :: waitingDues depth position tokens pending
  | .opening :: pending => waitingDues (depth + 1) position tokens pending

theorem le_of_mem_waitingDues {depth place : Nat}
    (member : place ∈ waitingDues depth position tokens pending) : position ≤ place := by
  induction pending generalizing depth with
  | nil => cases member
  | cons entry pending ih =>
    cases entry with
    | opening => exact ih member
    | operator op =>
      rcases List.mem_cons.mp member with rfl | below
      · exact le_scan op depth position tokens
      · exact ih below

theorem length_waitingDues (depth : Nat) :
    (waitingDues depth position tokens pending).length + pending.count .opening =
      pending.length := by
  induction pending generalizing depth with
  | nil => rfl
  | cons entry pending ih =>
    cases entry with
    | opening =>
      have below := ih (depth + 1)
      simp [waitingDues]
      omega
    | operator op =>
      have below := ih depth
      simp [waitingDues]
      omega

/-- Where scans agree at all depths, the places of waiting operators agree. -/
theorem waitingDues_congr {depth depth' position' : Nat} {tokens' : List Token}
    (same : ∀ op inner, scan op (inner + depth) position tokens =
      scan op (inner + depth') position' tokens') :
    waitingDues depth position tokens pending =
      waitingDues depth' position' tokens' pending := by
  induction pending generalizing depth depth' with
  | nil => rfl
  | cons entry pending ih =>
    cases entry with
    | opening =>
      refine ih fun op inner => ?_
      have further := same op (inner + 1)
      rw [Nat.add_right_comm inner 1 depth, Nat.add_right_comm inner 1 depth'] at further
      exact further
    | operator op =>
      have here := same op 0
      rw [Nat.zero_add, Nat.zero_add] at here
      rw [waitingDues, waitingDues, here, ih same]

/-- A token that no scan stops at. -/
theorem waitingDues_pass {depth : Nat} {token : Token}
    (passes : ∀ op inner, scan op (inner + depth) position (token :: tokens) =
      scan op (inner + depth) (position + 1) tokens) :
    waitingDues depth position (token :: tokens) pending =
      waitingDues depth (position + 1) tokens pending :=
  waitingDues_congr passes

theorem waitingDues_opening (depth : Nat) :
    waitingDues depth position (.opening :: tokens) pending =
      waitingDues (depth + 1) (position + 1) tokens pending :=
  waitingDues_congr fun _ _ => rfl

/-- A closing parenthesis has the operators above the opening one applied. -/
theorem waitingDues_closing {below : Stack Pending}
    (opened : pending.dropWhile Pending.isOperator = .opening :: below) :
    waitingDues 0 position (.closing :: tokens) pending =
      List.replicate (pending.takeWhile Pending.isOperator).length position ++
        waitingDues 0 (position + 1) tokens below := by
  induction pending with
  | nil => cases opened
  | cons entry pending ih =>
    cases entry with
    | opening =>
      cases opened
      change waitingDues 1 position (.closing :: tokens) below =
        waitingDues 0 (position + 1) tokens below
      exact waitingDues_congr fun _ _ => rfl
    | operator op =>
      have further := ih opened
      rw [waitingDues, further]
      rfl

/-! ## Entries of a group bind more tightly towards the top -/

/-- The upper one of two neighbours binds at least as tightly as the lower one,
unless one of them is a parenthesis. -/
def Pending.Above : Pending → Pending → Prop
  | .operator upper, .operator lower => lower.level ≤ upper.level
  | _, _ => True

/-- What waits in the middle of a line. -/
def Settled (pending : Stack Pending) : Prop := pending.IsChain Pending.Above

theorem Settled.push (settled : Settled pending) (op : Operator) :
    Settled (.operator op :: pending.dropWhile op.unwinds) := by
  have kept : Settled (pending.dropWhile op.unwinds) :=
    List.IsChain.suffix settled (List.dropWhile_suffix op.unwinds)
  refine List.isChain_cons.mpr ⟨?_, kept⟩
  intro entry top
  have stays := rests_dropWhile op.unwinds pending entry top
  cases entry with
  | opening => trivial
  | operator lower =>
    rcases Operator.unwinds_eq_false_iff.mp stays with rfl | tighter
    · exact lower.level_le_two
    · exact Nat.le_of_lt tighter

/-- An incoming operator that leaves the topmost entry leaves all entries of its
group. -/
theorem waitingDues_stay {next : Operator} (settled : Settled pending)
    (rests : Rests next.unwinds pending) :
    waitingDues 0 position (.operator next :: tokens) pending =
      waitingDues 0 (position + 1) tokens pending := by
  induction pending with
  | nil => rfl
  | cons entry pending ih =>
    cases entry with
    | opening =>
      change waitingDues 1 position (.operator next :: tokens) pending =
        waitingDues 1 (position + 1) tokens pending
      exact waitingDues_pass fun _ _ => by simp [scan]
    | operator op =>
      obtain ⟨order, below⟩ := List.isChain_cons.mp settled
      have top : next.unwinds (.operator op) = false := rests _ rfl
      have restsBelow : Rests next.unwinds pending := by
        intro entry member
        have above := order entry member
        cases entry with
        | opening => rfl
        | operator lower =>
          have lower_le : lower.level ≤ op.level := above
          refine Operator.unwinds_eq_false_iff.mpr ?_
          rcases Operator.unwinds_eq_false_iff.mp top with power | tighter
          · exact .inl power
          · exact .inr (Nat.lt_of_le_of_lt lower_le tighter)
      rw [waitingDues, waitingDues, ih below restsBelow]
      simp [scan, top]

/-- An incoming operator has exactly those of its group applied that it unwinds. -/
theorem waitingDues_operator {next : Operator} (settled : Settled pending) :
    waitingDues 0 position (.operator next :: tokens) pending =
      List.replicate (pending.takeWhile next.unwinds).length position ++
        waitingDues 0 (position + 1) tokens (pending.dropWhile next.unwinds) := by
  induction pending with
  | nil => rfl
  | cons entry pending ih =>
    cases unwound : next.unwinds entry with
    | false =>
      rw [List.takeWhile_cons_of_neg (by simp [unwound]),
        List.dropWhile_cons_of_neg (by simp [unwound])]
      exact waitingDues_stay settled (by rintro _ ⟨⟩; exact unwound)
    | true =>
      cases entry with
      | opening => cases unwound
      | operator op =>
        have further := ih (List.isChain_cons.mp settled).2
        rw [List.takeWhile_cons_of_pos unwound, List.dropWhile_cons_of_pos unwound, waitingDues,
          further]
        simp [scan, unwound, List.replicate_succ]

/-! ## Tokens that reduce -/

theorem suffices_iff {count : Nat} {entries : List Pending} :
    Suffices count entries ↔ entries.length = 0 ∨ entries.length < count := by
  rw [List.length_eq_zero_iff]
  rfl

/-- What waits stays settled, so a goal needs to be known for settled entries
only. -/
theorem reaches_congr {goal goal' : Nat → Stack Pending → Prop} {count : Nat} {token : Token}
    (settled : Settled pending)
    (same : ∀ count pending, Settled pending → (goal count pending ↔ goal' count pending)) :
    Reaches goal count pending token ↔ Reaches goal' count pending token := by
  cases token with
  | number _ | identifier _ | ignored => exact same _ _ settled
  | operator op => exact and_congr_right fun _ => same _ _ (settled.push op)
  | opening =>
    have pushed : Settled (.opening :: pending) :=
      List.isChain_cons.mpr ⟨fun _ _ => trivial, settled⟩
    exact same _ _ pushed
  | closing =>
    refine and_congr_right fun _ => exists_congr fun below => and_congr_right fun opened => ?_
    have kept : Settled (.opening :: below) :=
      List.IsChain.suffix settled (opened ▸ List.dropWhile_suffix Pending.isOperator)
    exact same _ _ (List.isChain_cons.mp kept).2
  | equals => exact Iff.rfl

/-- The rest of a line is balanced and affords all places where operators are
due. -/
def Accepts (position : Nat) (tokens : List Token) (count : Nat) (pending : Stack Pending) :
    Prop :=
  BalancedFrom (pending.count .opening) tokens ∧
    Affords count position tokens (waitingDues 0 position tokens pending ++ dues position tokens)

theorem beyond_later {place : Nat}
    (member : place ∈ waitingDues 0 (position + 1) tokens pending ++ dues (position + 1) tokens) :
    position < place := by
  rcases List.mem_append.mp member with waiting | own
  · exact le_of_mem_waitingDues waiting
  · exact le_of_mem_dues own

/-- A token at which nothing is due. -/
theorem affords_cons_none {count : Nat} {token : Token} {later : List Nat}
    (beyond : ∀ place ∈ later, position < place) :
    Affords count position (token :: tokens) later ↔
      Affords (count + [token].countP Token.isOperand) (position + 1) tokens later := by
  have general : Affords count position (token :: tokens) (List.replicate 0 position ++ later) ↔
      (0 = 0 ∨ 0 < count) ∧
        Affords (count - 0 + [token].countP Token.isOperand) (position + 1) tokens later :=
    affords_cons beyond
  rw [List.replicate_zero, List.nil_append, Nat.sub_zero, and_iff_right (.inl rfl)] at general
  exact general

theorem accepts_operator {count : Nat} (settled : Settled pending) (op : Operator) :
    Accepts position (.operator op :: tokens) count pending ↔
      Reaches (Accepts (position + 1) tokens) count pending (.operator op) := by
  -- The place where the operator itself is due goes over from the tokens to
  -- the waiting entries.
  have moved : (List.replicate (pending.takeWhile op.unwinds).length position ++
      waitingDues 0 (position + 1) tokens (pending.dropWhile op.unwinds) ++
      scan op 0 (position + 1) tokens :: dues (position + 1) tokens).Perm
      (List.replicate (pending.takeWhile op.unwinds).length position ++
        (waitingDues 0 (position + 1) tokens (.operator op :: pending.dropWhile op.unwinds) ++
          dues (position + 1) tokens)) := by
    rw [List.append_assoc]
    exact List.Perm.append_left _ List.perm_middle
  have groups : (Pending.operator op :: pending.dropWhile op.unwinds).count .opening =
      pending.count .opening := by
    rw [List.count_cons_of_ne (by simp), count_opening_dropWhile rfl]
  unfold Accepts
  rw [waitingDues_operator settled, dues, affords_congr moved,
    affords_cons fun _ => beyond_later, Reaches, suffices_iff, and_left_comm, groups]
  rfl

theorem accepts_closing {count : Nat} :
    Accepts position (.closing :: tokens) count pending ↔
      Reaches (Accepts (position + 1) tokens) count pending .closing := by
  have groups : (pending.dropWhile Pending.isOperator).count .opening =
      pending.count .opening := count_opening_dropWhile rfl pending
  have rests := rests_dropWhile Pending.isOperator pending
  unfold Accepts
  rw [Reaches, BalancedFrom, dues, ← groups]
  cases opened : pending.dropWhile Pending.isOperator with
  | nil =>
    constructor
    · rintro ⟨⟨some, _⟩, _⟩
      exact absurd rfl some
    · rintro ⟨_, _, ⟨⟩, _⟩
  | cons entry below =>
    obtain rfl : entry = .opening := by
      rw [opened] at rests
      cases entry with
      | opening => rfl
      | operator op => cases rests _ rfl
    rw [waitingDues_closing opened, List.append_assoc, affords_cons fun _ => beyond_later,
      suffices_iff, List.count_cons_self]
    constructor
    · rintro ⟨⟨_, balanced⟩, enough, affords⟩
      exact ⟨enough, below, rfl, balanced, affords⟩
    · rintro ⟨enough, _, same, balanced, affords⟩
      cases same
      exact ⟨⟨Nat.succ_ne_zero _, balanced⟩, enough, affords⟩

/-- One token: the condition on the rest of a line goes over to the rest after
it. -/
theorem accepts_cons {count : Nat} {token : Token} (settled : Settled pending)
    (plain : token ≠ .equals) :
    Accepts position (token :: tokens) count pending ↔
      Reaches (Accepts (position + 1) tokens) count pending token := by
  cases token with
  | number _ | identifier _ | ignored =>
    unfold Accepts
    rw [waitingDues_pass fun _ _ => rfl, dues, affords_cons_none fun _ => beyond_later]
    rfl
  | operator op => exact accepts_operator settled op
  | opening =>
    unfold Accepts
    rw [waitingDues_opening, dues, ← waitingDues, affords_cons_none fun _ => beyond_later,
      Reaches, List.count_cons_self]
    rfl
  | closing => exact accepts_closing
  | equals => exact absurd rfl plain

/-- Tokens reduce with operands counted iff they are balanced and afford all
places where operators are due. -/
theorem reduces_iff {count : Nat} (plain : .equals ∉ tokens) (settled : Settled pending) :
    Reduces tokens count pending ↔ Accepts position tokens count pending := by
  induction tokens generalizing count pending position with
  | nil =>
    have length : (waitingDues 0 position [] pending).length + pending.count .opening =
      pending.length := length_waitingDues 0
    rw [Reduces, ← count_opening_eq_zero, Accepts, BalancedFrom, dues, List.append_nil, Affords,
      List.countP_nil]
    constructor
    · rintro ⟨none, single⟩
      refine ⟨none, by omega, fun place _ => ?_⟩
      have most : (waitingDues 0 position [] pending).countP (· ≤ place) ≤
        (waitingDues 0 position [] pending).length := List.countP_le_length
      omega
    · rintro ⟨none, single, _⟩
      exact ⟨none, by omega⟩
  | cons token tokens ih =>
    rw [List.mem_cons, not_or] at plain
    rw [Reduces, accepts_cons settled (Ne.symm plain.1)]
    exact reaches_congr settled fun _ _ settled => ih plain.2 settled

/-- The lines that have a value. A line without equals signs has one iff its
numerals are numbers, its parentheses are balanced, it has one operand more than
operators, and for each operator there are more operands before the place where
it is due than operators due up to there. -/
theorem evaluate_succeeds_iff (store : Store α) (plain : .equals ∉ tokens) :
    (∃ evaluation, ((Evaluator.ofStore store).evaluate arith tokens).2.outcome = .ok evaluation) ↔
      Readable arith tokens ∧ Balanced tokens ∧
        tokens.countP Token.isOperand = (operatorPlaces tokens).length + 1 ∧
        ∀ place ∈ operatorPlaces tokens,
          (operatorPlaces tokens).countP (fun other => due tokens other ≤ due tokens place) <
            (tokens.take (due tokens place)).countP Token.isOperand := by
  have settled : Settled (empty : Workspace α).pending := .nil
  have counted : (∃ reductions value,
      reckon arith store 0 empty tokens = ⟨reductions, .ok value⟩) ↔
        Readable arith tokens ∧ Accepts 0 tokens 0 [] := by
    rw [exists_reckon_iff, reduces_iff plain settled]
    rfl
  rw [Evaluator.exists_outcome_evaluate_iff plain, counted, balanced_iff_balancedFrom, Accepts,
    and_congr_right_iff]
  intro _
  refine and_congr_right fun balanced => ?_
  have places : waitingDues 0 0 tokens [] ++ dues 0 tokens =
      (operatorPlaces tokens).map (due tokens) := (map_due_operatorPlaces balanced).symm
  rw [places, Affords, List.length_map, Nat.zero_add, List.forall_mem_map]
  simp only [List.countP_map, Nat.zero_add, Nat.sub_zero]
  rfl

/-- `2 3 + ( 4 * )` has a value. -/
theorem evaluate_succeeds_iff_misordered :
    .equals ∉ [Token.number "2", .number "3", .operator .add, .opening, .number "4",
        .operator .mul, .closing] ∧
      ∃ evaluation, ((Evaluator.ofStore Store.seeded).evaluate .binary64
        [.number "2", .number "3", .operator .add, .opening, .number "4", .operator .mul,
          .closing]).2.outcome = .ok evaluation := by
  have plain : .equals ∉ [Token.number "2", .number "3", .operator .add, .opening, .number "4",
      .operator .mul, .closing] := by decide
  have readable : Readable .binary64 [.number "2", .number "3", .operator .add, .opening,
      .number "4", .operator .mul, .closing] := by
    intro text member
    simp only [List.mem_cons, Token.number.injEq, reduceCtorEq, List.not_mem_nil, or_false,
      false_or] at member
    rcases member with rfl | rfl | rfl <;> rfl
  have balanced : Balanced [.number "2", .number "3", .operator .add, .opening, .number "4",
      .operator .mul, .closing] := by
    rw [balanced_iff_balancedFrom]
    simp [BalancedFrom]
  refine ⟨plain, (evaluate_succeeds_iff Store.seeded plain).mpr ⟨readable, balanced, ?_, ?_⟩⟩
  · decide
  · decide

end Calculator
