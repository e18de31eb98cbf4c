import Calculator.Proofs.Infix.Phrase

/-!
# The pass computes the value of a phrase

No tree is built during the pass, so a phrase that has been taken in may leave
operators waiting. `Owes` says what such a workspace is worth: unwinding it goes
on as if the value of the phrase had been pushed. `Absorbs` says that taking in
some tokens leads to such a workspace, from any workspace whose topmost entry
does not get unwound on the way.

Results:
1. `Absorbs.operation` and `Absorbs.group`: how the property passes from the
   parts of a phrase to the phrase.
2. `Phrase.absorbs`: the tokens of every phrase have it.
3. `evaluate_eq_value`: a line that is a phrase, or assigns one, has the value
   of the phrase.
-/

namespace Calculator

variable {α : Type} {arith : Arithmetic α} {store : Store α}

/-- A computation that comes after some reductions. -/
def Traced.after {β : Type} (first : List (Reduction α)) (x : Traced α β) : Traced α β :=
  ⟨first ++ x.reductions, x.outcome⟩

namespace Workspace

/-! ## Values that are owed -/

/-- All operators of a level or above are due. -/
def Covers (level : Nat) (isDue : Pending → Bool) : Prop :=
  ∀ op : Operator, level ≤ op.level → isDue (.operator op) = true

/-- `Owes arith level waiting value w w'`: the workspace `w'` is `w` with a
value on top that is not computed yet. Unwinding the operators of the level and
above makes the waiting reductions and goes on as if the value were there. -/
def Owes (arith : Arithmetic α) (level : Nat) (waiting : List (Reduction α)) (value : α)
    (w w' : Workspace α) : Prop :=
  ∀ isDue, Covers level isDue →
    unwind arith isDue w'.operands w'.pending =
      Traced.after waiting (unwind arith isDue (value :: w.operands) w.pending)

theorem owes_pushOperand (level : Nat) (value : α) (w : Workspace α) :
    Owes arith level [] value w (w.pushOperand value) :=
  fun _ _ => rfl

theorem Owes.loosen {level lower : Nat} {waiting : List (Reduction α)} {value : α}
    {w w' : Workspace α} (owes : Owes arith level waiting value w w') (below : lower ≤ level) :
    Owes arith lower waiting value w w' :=
  fun isDue covers => owes isDue fun op above => covers op (Nat.le_trans below above)

/-- A right operand that is owed above its operator is a result that is owed. -/
theorem Owes.apply {op : Operator} {level : Nat} {waiting : List (Reduction α)} {lhs rhs : α}
    {operands : Stack α} {pending : Stack Pending} {w' : Workspace α}
    (owes : Owes arith level waiting rhs ⟨lhs :: operands, .operator op :: pending⟩ w')
    (tight : op.level ≤ level) :
    Owes arith op.level (waiting ++ [⟨op, lhs, rhs, arith.apply op lhs rhs⟩])
      (arith.apply op lhs rhs) ⟨operands, pending⟩ w' := by
  intro isDue covers
  rw [owes.loosen tight isDue covers]
  have due : isDue (.operator op) = true := covers op (Nat.le_refl _)
  simp only [unwind, due, if_true]
  change Traced.after waiting (⟨[_], .ok _⟩ >>= _) = _
  rw [Traced.mk_ok_bind]
  simp [Traced.after, Stack.push]

/-- Unwinding down to the workspace below computes the value that is owed. -/
theorem Owes.unwind_eq {level : Nat} {waiting : List (Reduction α)} {value : α}
    {w w' : Workspace α} {isDue : Pending → Bool} (owes : Owes arith level waiting value w w')
    (covers : Covers level isDue) (rests : Rests isDue w.pending) :
    unwind arith isDue w'.operands w'.pending = ⟨waiting, .ok (w.pushOperand value)⟩ := by
  rw [owes isDue covers, unwind_of_rests rests]
  simp [Traced.after, pushOperand, Stack.push]

/-! ## Tokens that are absorbed -/

/-- `Absorbs arith store level tokens reductions value w`: taking the tokens
into `w` succeeds and leaves their value owed. The reductions are those made on
the way and then those that wait. -/
def Absorbs (arith : Arithmetic α) (store : Store α) (level : Nat) (tokens : List Token)
    (reductions : List (Reduction α)) (value : α) (w : Workspace α) : Prop :=
  ∃ done waiting w', (∀ position, readAll arith store position w tokens = ⟨done, .ok w'⟩) ∧
    Owes arith level waiting value w w' ∧ reductions = done ++ waiting

theorem Absorbs.loosen {level lower : Nat} {tokens : List Token}
    {reductions : List (Reduction α)} {value : α} {w : Workspace α}
    (absorbs : Absorbs arith store level tokens reductions value w) (below : lower ≤ level) :
    Absorbs arith store lower tokens reductions value w := by
  obtain ⟨done, waiting, w', taken, owes, rfl⟩ := absorbs
  exact ⟨done, waiting, w', taken, owes.loosen below, rfl⟩

theorem absorbs_operand {token : Token} {value : α}
    (known : token.operand? arith store = some value) (level : Nat) (w : Workspace α) :
    Absorbs arith store level [token] [] value w := by
  refine ⟨[], [], w.pushOperand value, fun position => ?_, owes_pushOperand level value w, rfl⟩
  exact readAll_cons_eq_ok.mpr ⟨[], _, [], .operand known, rfl, rfl⟩

/-- An operator between two phrases: it unwinds exactly what the left one left
waiting, and waits itself below what the right one leaves. -/
theorem Absorbs.operation {op : Operator} {leftLevel rightLevel : Nat}
    {left right : List Token} {leftReductions rightReductions : List (Reduction α)}
    {lhs rhs : α} {w : Workspace α}
    (onLeft : Absorbs arith store leftLevel left leftReductions lhs w)
    (covers : Covers leftLevel op.unwinds) (rests : Rests op.unwinds w.pending)
    (onRight : Absorbs arith store rightLevel right rightReductions rhs
      ⟨lhs :: w.operands, .operator op :: w.pending⟩)
    (tight : op.level ≤ rightLevel) :
    Absorbs arith store op.level (left ++ .operator op :: right)
      (leftReductions ++ rightReductions ++ [⟨op, lhs, rhs, arith.apply op lhs rhs⟩])
      (arith.apply op lhs rhs) w := by
  obtain ⟨doneLeft, waitLeft, wLeft, takenLeft, owesLeft, rfl⟩ := onLeft
  obtain ⟨doneRight, waitRight, wRight, takenRight, owesRight, rfl⟩ := onRight
  have pushed : ∀ position, read arith store position wLeft (.operator op) =
      ⟨waitLeft, .ok ⟨lhs :: w.operands, .operator op :: w.pending⟩⟩ := by
    intro position
    rw [read, owesLeft.unwind_eq covers rests, Traced.mk_ok_bind]
    simp [Traced.pure_eq, pushOperand, pushPending, Stack.push]
  refine ⟨doneLeft ++ (waitLeft ++ doneRight), waitRight ++ [_], wRight, fun position => ?_,
    owesRight.apply tight, by simp⟩
  rw [readAll_append, takenLeft, Traced.mk_ok_bind, readAll, pushed, Traced.mk_ok_bind,
    takenRight]

/-- Parentheses around a phrase: the closing one computes the value in full. -/
theorem Absorbs.group {tokens : List Token} {reductions : List (Reduction α)} {value : α}
    {w : Workspace α}
    (inside : Absorbs arith store 0 tokens reductions value (w.pushPending .opening))
    (level : Nat) :
    Absorbs arith store level (.opening :: (tokens ++ [.closing])) reductions value w := by
  obtain ⟨done, waiting, w', taken, owes, rfl⟩ := inside
  have covers : Covers 0 Pending.isOperator := fun _ _ => rfl
  have rests : Rests Pending.isOperator (w.pushPending .opening).pending := by
    rintro _ ⟨⟩
    rfl
  have closed : ∀ position, read arith store position w' .closing =
      ⟨waiting, .ok (w.pushOperand value)⟩ := by
    intro position
    rw [read, owes.unwind_eq covers rests, Traced.mk_ok_bind]
    simp [Traced.pure_eq, close, pushOperand, pushPending, Stack.push]
  refine ⟨done ++ waiting, [], w.pushOperand value, fun position => ?_,
    owes_pushOperand level value w, by simp⟩
  refine readAll_cons_eq_ok.mpr ⟨[], _, done ++ waiting, .opening, ?_, rfl⟩
  rw [readAll_append, taken, Traced.mk_ok_bind, readAll, closed, Traced.mk_ok_bind]
  simp [readAll, Traced.pure_eq]

end Workspace

/-! ## Operators and tiers -/

namespace Operator

/-- An operator other than `^` unwinds all operators of its own level and above. -/
theorem covers_unwinds {op : Operator} (chain : op ≠ .pow) :
    Workspace.Covers op.level op.unwinds := by
  intro waiting above
  simp [unwinds_operator, chain, above]

/-- A `^`, or an operator that binds more tightly than the topmost one, unwinds
nothing. -/
theorem rests_of_tighter {op top : Operator} (tighter : op = .pow ∨ top.level < op.level)
    (pending : Stack Pending) : Workspace.Rests op.unwinds (.operator top :: pending) := by
  rintro _ ⟨⟩
  exact unwinds_eq_false_iff.mpr tighter

end Operator

/-! ## Phrases -/

namespace Phrase

open Workspace

variable {tier : Tier}

/-- No operator of a tier or above unwinds the topmost entry. -/
def Fits (tier : Tier) (pending : Stack Pending) : Prop :=
  ∀ op : Operator, tier.level ≤ op.level → Rests op.unwinds pending

theorem Fits.tighten {lower : Tier} {pending : Stack Pending} (fits : Fits lower pending)
    (above : lower.level ≤ tier.level) : Fits tier pending :=
  fun op high => fits op (Nat.le_trans above high)

theorem fits_power (pending : Stack Pending) : Fits .power pending := by
  rintro op high entry _
  cases op with
  | pow => cases entry <;> rfl
  | add | sub | mul | div | rem => exact absurd high (by decide)

theorem fits_product {op : Operator} (additive : op.isAdditive = true)
    (pending : Stack Pending) : Fits .product (.operator op :: pending) := by
  intro incoming high
  have low : op.level = 0 := op.isAdditive_iff_level.mp additive
  exact Operator.rests_of_tighter (.inr (by rw [low]; exact high)) pending

theorem fits_sum (pending : Stack Pending) : Fits .sum (.opening :: pending) := by
  rintro op _ _ ⟨⟩
  rfl

/-- An operator of a tier that groups to the left, between two phrases. -/
theorem chain {op : Operator} {rightLevel : Nat} {left right : List Token}
    {leftReductions rightReductions : List (Reduction α)} {lhs rhs : α} {w : Workspace α}
    (onLeft : Absorbs arith store tier.level left leftReductions lhs w)
    (level : op.level = tier.level) (low : tier.level < 2) (fits : Fits tier w.pending)
    (onRight : Absorbs arith store rightLevel right rightReductions rhs
      ⟨lhs :: w.operands, .operator op :: w.pending⟩)
    (tight : tier.level ≤ rightLevel) :
    Absorbs arith store tier.level (left ++ .operator op :: right)
      (leftReductions ++ rightReductions ++ [⟨op, lhs, rhs, arith.apply op lhs rhs⟩])
      (arith.apply op lhs rhs) w := by
  have chain : op ≠ .pow := by
    rintro rfl
    rw [← level] at low
    exact absurd low (by decide)
  have stays : Rests op.unwinds w.pending := fits op (Nat.le_of_eq level.symm)
  rw [← level] at onLeft tight ⊢
  exact onLeft.operation (op.covers_unwinds chain) stays onRight tight

/-- The tokens of a phrase are absorbed wherever no operator of its tier unwinds
what waits below. The induction is on the derivation. -/
theorem absorbs (p : Phrase arith tier) (store : Store α) (w : Workspace α)
    (fits : Fits tier w.pending) :
    Absorbs arith store tier.level p.tokens (p.reductions store) (p.value store) w := by
  induction p generalizing w with
  | number text value known =>
    exact absorbs_operand (show Token.operand? arith store (.number text) = _ from known) _ w
  | identifier name => exact absorbs_operand rfl _ w
  | group inner ih => exact (ih (w.pushPending .opening) (fits_sum w.pending)).group _
  | base only ih => exact (ih w (fits.tighten (by decide))).loosen (by decide)
  | factor only ih => exact (ih w (fits.tighten (by decide))).loosen (by decide)
  | term only ih => exact (ih w (fits.tighten (by decide))).loosen (by decide)
  | raise left right onLeft onRight =>
    have onLeft := onLeft w (fits.tighten (by decide))
    have onRight := onRight ⟨left.value store :: w.operands, .operator .pow :: w.pending⟩
      (fits_power _)
    have covers : Covers Tier.atom.level Operator.pow.unwinds :=
      fun op high => absurd (Nat.le_trans high op.level_le_two) (by decide)
    exact onLeft.operation covers (fits_power w.pending .pow (Nat.le_refl 2)) onRight
      (Nat.le_refl 2)
  | times left op multiplicative right onLeft onRight =>
    have level : op.level = 1 := op.isMultiplicative_iff_level.mp multiplicative
    exact chain (onLeft w fits) level (by decide) fits (onRight _ (fits_power _)) (by decide)
  | plus left op additive right onLeft onRight =>
    have level : op.level = 0 := op.isAdditive_iff_level.mp additive
    exact chain (onLeft w fits) level (by decide) fits (onRight _ (fits_product additive _))
      (by decide)

/-- The pass over the tokens of a sum computes its value, by its reductions in
post-order. -/
theorem reckon_tokens (p : Phrase arith .sum) (store : Store α) (position : Nat) :
    reckon arith store position empty p.tokens = ⟨p.reductions store, .ok (p.value store)⟩ := by
  have fits : Fits .sum (empty : Workspace α).pending := by
    rintro _ _ _ ⟨⟩
  obtain ⟨done, waiting, w', taken, owes, same⟩ := p.absorbs store empty fits
  have covers : Covers Tier.sum.level fun _ => true := fun _ _ => rfl
  have rests : Rests (fun _ => true) (empty : Workspace α).pending := by
    rintro _ ⟨⟩
  unfold reckon
  rw [taken, Traced.mk_ok_bind, finish, owes.unwind_eq covers rests, Traced.mk_ok_bind, same]
  simp [result, pushOperand, Stack.push, empty, Stack.empty, Traced.pure_eq]

end Phrase

/-- A line that is a phrase of the grammar has the value of the phrase, and so
has a line that assigns one. -/
theorem evaluate_eq_value (store : Store α) (p : Phrase arith .sum) :
    ((Evaluator.ofStore store).evaluate arith p.tokens).2.outcome =
        .ok ⟨p.value store, none⟩ ∧
      ∀ name, Token.isVariableName name = true →
        ((Evaluator.ofStore store).evaluate arith
            (.identifier name :: .equals :: p.tokens)).2.outcome =
          .ok ⟨p.value store, some name⟩ := by
  have outcome : ∀ target : Option String,
      (∀ name ∈ target, Token.isVariableName name = true) →
      ((Evaluator.ofStore store).evaluate arith (Statement.lead target ++ p.tokens)).2.outcome =
        .ok ⟨p.value store, target⟩ := by
    intro target assignable
    rw [Evaluator.outcome_evaluate_lead arith store assignable p.plain, p.reckon_tokens store 0]
    rfl
  constructor
  · exact outcome none (by simp)
  · intro name valid
    exact outcome (some name) (by rintro _ ⟨⟩; exact valid)

/-- Powers group to the right and differences to the left in
`x = 9 - 2 ^ 3 ^ 2 - pi`. -/
theorem evaluate_eq_value_chain :
    Token.isVariableName "x" = true ∧
      ((Evaluator.ofStore Store.seeded).evaluate .binary64
        [.identifier "x", .equals, .number "9", .operator .sub, .number "2", .operator .pow,
          .number "3", .operator .pow, .number "2", .operator .sub, .identifier "pi"]).2.outcome =
        .ok ⟨Operator.apply .sub
          (Operator.apply .sub 9 (Operator.apply .pow 2 (Operator.apply .pow 3 2)))
          3.141592653589793, some "x"⟩ := by
  have valid : Token.isVariableName "x" = true := by decide
  let two : Phrase .binary64 .atom := .number "2" 2 rfl
  let three : Phrase .binary64 .atom := .number "3" 3 rfl
  let nine : Phrase .binary64 .atom := .number "9" 9 rfl
  let tower : Phrase .binary64 .product := .factor (.raise two (.raise three (.base two)))
  let difference : Phrase .binary64 .sum :=
    .plus (.plus (.term (.factor (.base nine))) .sub rfl tower) .sub rfl
      (.factor (.base (.identifier "pi")))
  exact ⟨valid, (evaluate_eq_value Store.seeded difference).2 "x" valid⟩

end Calculator
