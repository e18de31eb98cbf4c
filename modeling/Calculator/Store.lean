/-!
# The variable store

Variables are kept in the order of their first binding, which is also the
order they are listed in. Binding a name that is already there overwrites its
value in place. Nothing is ever removed.
-/

namespace Calculator

structure Binding (α : Type) where
  name : String
  value : α
  deriving DecidableEq, Repr

/-- The variables of a calculator, in the order of their first binding. -/
structure Store (α : Type) where
  bindings : List (Binding α)
  deriving DecidableEq, Repr

namespace Store

variable {α : Type}

def empty : Store α := ⟨[]⟩

/-- The first value bound to a name in a list of bindings. -/
def valueOf? (name : String) : List (Binding α) → Option α
  | [] => none
  | b :: bs => if b.name = name then some b.value else valueOf? name bs

/-- Overwrites the first binding of a name, or appends one. -/
def put (name : String) (value : α) : List (Binding α) → List (Binding α)
  | [] => [⟨name, value⟩]
  | b :: bs => if b.name = name then ⟨name, value⟩ :: bs else b :: put name value bs

def lookup (s : Store α) (name : String) : Option α :=
  valueOf? name s.bindings

def contains (s : Store α) (name : String) : Bool :=
  (s.lookup name).isSome

/-- Binds a name to a value: in place when the name is bound already, after
all other variables when it is not. -/
def bind (s : Store α) (name : String) (value : α) : Store α :=
  ⟨put name value s.bindings⟩

def bindAll (s : Store α) (bs : List (Binding α)) : Store α :=
  bs.foldl (fun s b => s.bind b.name b.value) s

def size (s : Store α) : Nat := s.bindings.length

def isEmpty (s : Store α) : Bool := s.bindings.isEmpty

def names (s : Store α) : List String := s.bindings.map (·.name)

/-! ## What a binding changes -/

theorem valueOf?_put (name other : String) (value : α) (bs : List (Binding α)) :
    valueOf? other (put name value bs) =
      if other = name then some value else valueOf? other bs := by
  induction bs with
  | nil => simp [put, valueOf?, eq_comm]
  | cons b bs ih =>
    by_cases bound : b.name = name
    · by_cases same : other = name
      · simp [put, valueOf?, bound, same]
      · have apart : ¬ name = other := fun e => same e.symm
        simp [put, valueOf?, bound, same, apart]
    · by_cases found : b.name = other
      · have apart : other ≠ name := fun e => bound (found.trans e)
        simp [put, valueOf?, found, apart]
      · simp [put, valueOf?, bound, found, ih]

/-- After a binding the bound name has the new value and every other name the
value it had. -/
theorem lookup_bind (s : Store α) (name other : String) (value : α) :
    (s.bind name value).lookup other =
      if other = name then some value else s.lookup other :=
  valueOf?_put name other value s.bindings

theorem valueOf?_isSome_iff (name : String) (bs : List (Binding α)) :
    (valueOf? name bs).isSome = true ↔ name ∈ bs.map (·.name) := by
  induction bs with
  | nil => simp [valueOf?]
  | cons b bs ih =>
    by_cases bound : b.name = name
    · simp [valueOf?, bound]
    · have apart : ¬ name = b.name := fun e => bound e.symm
      simp only [valueOf?, if_neg bound, ih, List.map_cons, List.mem_cons, apart, false_or]

/-- The names that have a value are the names that are listed. -/
theorem contains_iff (s : Store α) (name : String) :
    s.contains name = true ↔ name ∈ s.names :=
  valueOf?_isSome_iff name s.bindings

theorem map_name_put (name : String) (value : α) (bs : List (Binding α)) :
    (put name value bs).map (·.name) =
      if name ∈ bs.map (·.name) then bs.map (·.name) else bs.map (·.name) ++ [name] := by
  induction bs with
  | nil => simp [put]
  | cons b bs ih =>
    by_cases bound : b.name = name
    · simp [put, bound]
    · have apart : ¬ name = b.name := fun e => bound e.symm
      simp only [put, if_neg bound, List.map_cons, ih, List.mem_cons, apart, false_or]
      split <;> simp

/-- A binding leaves the listed names as they are, or adds the new name after
them. -/
theorem names_bind (s : Store α) (name : String) (value : α) :
    (s.bind name value).names = if name ∈ s.names then s.names else s.names ++ [name] :=
  map_name_put name value s.bindings

end Store

end Calculator
