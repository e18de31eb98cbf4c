import Calculator.Failure
import Calculator.Operator

/-!
# Traced computations

Evaluating a line applies operators one after the other, and may fail at any
point. A traced computation has an outcome and the list of the reductions that
were completed on the way, also when the outcome is a failure.
-/

namespace Calculator

/-- One operator applied to its two operands. -/
structure Reduction (α : Type) where
  op : Operator
  lhs : α
  rhs : α
  value : α
  deriving DecidableEq, Repr

/-- An outcome, and the reductions completed before it, first one first. -/
structure Traced (α β : Type) where
  reductions : List (Reduction α)
  outcome : Except Failure β

namespace Traced

variable {α β γ δ : Type}

def ofExcept (outcome : Except Failure β) : Traced α β := ⟨[], outcome⟩

def malformed (fault : SyntaxFault) : Traced α β := ⟨[], .error (.malformed fault)⟩

def irreducible (fault : ReductionFault) : Traced α β := ⟨[], .error (.irreducible fault)⟩

def reduced (reduction : Reduction α) (result : β) : Traced α β := ⟨[reduction], .ok result⟩

/-- Runs a computation and then, if it succeeded, one that depends on its
result. The reductions of both are kept in order. -/
def andThen (x : Traced α β) (next : β → Traced α γ) : Traced α γ :=
  match x.outcome with
  | .error failure => ⟨x.reductions, .error failure⟩
  | .ok b => ⟨x.reductions ++ (next b).reductions, (next b).outcome⟩

instance : Monad (Traced α) where
  pure b := ⟨[], .ok b⟩
  bind := andThen

theorem pure_eq (b : β) : (pure b : Traced α β) = ⟨[], .ok b⟩ := rfl

theorem mk_ok_bind (reductions : List (Reduction α)) (b : β) (next : β → Traced α γ) :
    (⟨reductions, .ok b⟩ : Traced α β) >>= next =
      ⟨reductions ++ (next b).reductions, (next b).outcome⟩ := rfl

theorem mk_error_bind (reductions : List (Reduction α)) (failure : Failure)
    (next : β → Traced α γ) :
    (⟨reductions, .error failure⟩ : Traced α β) >>= next = ⟨reductions, .error failure⟩ := rfl

theorem id_map_eq (x : Traced α β) : id <$> x = x := by
  rcases x with ⟨reductions, outcome⟩
  cases outcome with
  | error failure => rfl
  | ok b => simp [Functor.map, andThen]

theorem bind_assoc_eq (x : Traced α β) (f : β → Traced α γ) (g : γ → Traced α δ) :
    x >>= f >>= g = x >>= fun b => f b >>= g := by
  rcases x with ⟨reductions, outcome⟩
  cases outcome with
  | error failure => rfl
  | ok b =>
    rw [mk_ok_bind, mk_ok_bind]
    rcases f b with ⟨later, result⟩
    cases result with
    | error failure => rfl
    | ok c => simp only [bind, andThen, List.append_assoc]

instance : LawfulMonad (Traced α) :=
  LawfulMonad.mk' (Traced α) id_map_eq (fun _ _ => rfl) bind_assoc_eq

end Traced

end Calculator
