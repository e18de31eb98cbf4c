import Calculator.Text.Cluster.BreakClass

/-!
# Clusters

A cluster is what a reader takes for one character: a letter with its accents,
a flag, a syllable. These are the extended grapheme clusters of Unicode. A text
is cut into clusters from its start; the cut before a character depends on the
characters of the cluster that has begun.

Nothing is lost: the clusters of a text make up the text (`flatten_clusters`).
-/

namespace Calculator.Text

/-- Whether the characters with these classes, the latest first, end in a
consonant and marks after it that link it to the next consonant. -/
def endsLinked (before : List BreakClass) : Bool :=
  (before.takeWhile BreakClass.isConjunctMark).contains .linker &&
    (before.dropWhile BreakClass.isConjunctMark).head? = some .consonant

/-- Whether the characters with these classes, the latest first, end in a
pictograph and a joiner. -/
def endsJoined : List BreakClass → Bool
  | .joiner :: earlier => (earlier.dropWhile BreakClass.isExtending).head? = some .pictograph
  | _ => false

/-- Whether the characters with these classes, the latest first, end in the
first half of a flag. -/
def endsInHalfFlag (before : List BreakClass) : Bool :=
  (before.takeWhile (· = .regional)).length % 2 = 1

/-- Whether a character belongs to the cluster that has begun before it. The
classes of the cluster's characters are given, the latest first. -/
def joins : List BreakClass → BreakClass → Bool
  | [], _ => false
  | .carriageReturn :: _, .lineFeed => true
  | last :: earlier, next =>
    if last.isControl || next.isControl then false
    else if next.joinsBackward || last = .prepend then true
    else
      match next with
      | .consonant => endsLinked (last :: earlier)
      | .pictograph => endsJoined (last :: earlier)
      | .regional => endsInHalfFlag (last :: earlier)
      | _ => last.continuesSyllable next

/-- The clusters of a text after the characters `begun` of its first cluster,
whose classes are `before`; of both the latest comes first. -/
def clustersFrom (begun : List Char) (before : List BreakClass) : List Char → List (List Char)
  | [] => [begun.reverse]
  | c :: cs =>
    let next := BreakClass.ofChar c
    if joins before next then clustersFrom (c :: begun) (next :: before) cs
    else begun.reverse :: clustersFrom [c] [next] cs

def clusters : List Char → List (List Char)
  | [] => []
  | c :: cs => clustersFrom [c] [BreakClass.ofChar c] cs

theorem flatten_clustersFrom (begun : List Char) (before : List BreakClass) (cs : List Char) :
    (clustersFrom begun before cs).flatten = begun.reverse ++ cs := by
  induction cs generalizing begun before with
  | nil => simp [clustersFrom]
  | cons c cs ih =>
    rw [clustersFrom]
    split
    · rw [ih, List.reverse_cons, List.append_assoc, List.singleton_append]
    · rw [List.flatten_cons, ih, List.reverse_singleton, List.singleton_append]

/-- The clusters of a text make up the text. -/
theorem flatten_clusters (cs : List Char) : (clusters cs).flatten = cs := by
  cases cs with
  | nil => rfl
  | cons c cs => exact flatten_clustersFrom [c] _ cs

end Calculator.Text
