import Calculator.Text.Bytes
import Calculator.Text.Cluster.Basic

/-!
# Backspaces

A line that was sent with its backspaces in it is settled by typing it again,
cluster by cluster: a backspace takes back the cluster before it, and at the
start of the line it does nothing.

What is taken back is a number of bytes, which was noted when the cluster was
typed, and a note has room for one byte. So a cluster of 256 bytes or more is
taken back only in part, and the line cannot be settled if that part ends
inside a character.

A line without backspaces is settled as it stands (`settle?_eq_some`).
-/

namespace Calculator.Text

/-- The character that takes back what was typed before it. -/
def backspace : Char := '\x08'

/-- A line that is being typed. -/
structure Draft where
  /-- The characters of the line, the latest first. -/
  reversed : List Char
  /-- The lengths noted for the clusters that can be taken back, the latest first. -/
  noted : List UInt8
  deriving DecidableEq, Repr

namespace Draft

def blank : Draft := ⟨[], []⟩

def append (d : Draft) (cluster : List Char) : Draft :=
  ⟨cluster.reverse ++ d.reversed, (byteCount cluster).toUInt8 :: d.noted⟩

/-- Takes back the latest cluster, by the length that was noted for it. -/
def takeBack? (d : Draft) : Option Draft :=
  match d.noted with
  | [] => some d
  | length :: earlier => (dropBytes? length.toNat d.reversed).map fun kept => ⟨kept, earlier⟩

/-- Takes in a cluster of the line that was sent. -/
def type? (d : Draft) (cluster : List Char) : Option Draft :=
  if cluster = [backspace] then d.takeBack? else some (d.append cluster)

def text (d : Draft) : List Char := d.reversed.reverse

end Draft

/-- What is left of a line when its backspaces have had their effect. -/
def settle? (line : List Char) : Option (List Char) :=
  ((clusters line).foldlM Draft.type? Draft.blank).map Draft.text

namespace Draft

theorem text_append (d : Draft) (cluster : List Char) :
    (d.append cluster).text = d.text ++ cluster := by
  rw [text, append, List.reverse_append, List.reverse_reverse, text]

/-- Clusters other than a backspace are typed one after the other. -/
theorem foldlM_type? (d : Draft) {typed : List (List Char)} (plain : [backspace] ∉ typed) :
    (typed.foldlM type? d).map text = some (d.text ++ typed.flatten) := by
  induction typed generalizing d with
  | nil => simp
  | cons cluster typed ih =>
    have other : cluster ≠ [backspace] := fun equal => plain (equal ▸ List.mem_cons_self)
    have rest : [backspace] ∉ typed := fun present => plain (List.mem_cons_of_mem _ present)
    rw [List.foldlM_cons, type?, if_neg other]
    simp only [Option.bind_eq_bind, Option.bind_some]
    rw [ih _ rest, text_append, List.flatten_cons, List.append_assoc]

end Draft

/-- A line without backspaces is settled as it stands. -/
theorem settle?_eq_some {line : List Char} (plain : backspace ∉ line) :
    settle? line = some line := by
  have apart : [backspace] ∉ clusters line := by
    intro present
    apply plain
    rw [← flatten_clusters line]
    exact List.mem_flatten.mpr ⟨_, present, List.mem_singleton_self _⟩
  rw [settle?, Draft.foldlM_type? _ apart, flatten_clusters]
  rfl

end Calculator.Text
