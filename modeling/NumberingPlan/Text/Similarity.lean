/-! How alike two texts are. The longest run that both contain is matched, then what stands before
it in both, and what stands after it. -/
namespace NumberingPlan.Text

/-- The length of the longest common beginning. -/
def commonStart : List Char → List Char → Nat
  | a :: as, b :: bs => if a == b then commonStart as bs + 1 else 0
  | _, _ => 0

/-- A run of two texts: how much of each stands before it, and its length. -/
structure SharedRun where
  before : Nat
  beforeOther : Nat
  length : Nat
  deriving DecidableEq, Repr

/-- The runs of two texts that can be extended no further to the right, by their places. -/
def sharedRuns (a b : List Char) : List SharedRun :=
  (List.range a.length).flatMap fun i => (List.range b.length).map fun j =>
    ⟨i, j, commonStart (a.drop i) (b.drop j)⟩

/-- The longest run of two texts, the first of several. -/
def longestRun (a b : List Char) : SharedRun :=
  (sharedRuns a b).foldl (fun best run => if best.length < run.length then run else best) ⟨0, 0, 0⟩

/-- The number of characters that are matched in matches of a given depth. -/
def matchedWithin : Nat → List Char → List Char → Nat
  | 0, _, _ => 0
  | depth + 1, a, b =>
    let run := longestRun a b
    if run.length = 0 then 0
    else
      matchedWithin depth (a.take run.before) (b.take run.beforeOther) + run.length +
        matchedWithin depth (a.drop (run.before + run.length))
          (b.drop (run.beforeOther + run.length))

/-- The number of characters that two texts have matched. -/
def matched (a b : List Char) : Nat := matchedWithin a.length a b

/-- How alike two texts are, as the quotient of the matched characters of both and all of them. -/
structure Similarity where
  shared : Nat
  total : Nat
  deriving DecidableEq, Repr

def similarity (a b : String) : Similarity :=
  ⟨2 * matched a.toList b.toList, a.toList.length + b.toList.length⟩

/-- Whether a similarity is at least another. -/
def Similarity.atLeast (s t : Similarity) : Bool := t.shared * s.total ≤ s.shared * t.total

/-- The least similarity of texts that may be mistaken for each other. -/
def confusable : Similarity := ⟨3, 5⟩

/-- The texts that a word may be mistaken for, the most similar first and no more than three. Of
two that are equally similar the greater is first. -/
def closest (word : String) (candidates : List String) : List String :=
  let rated := candidates.map fun candidate => (similarity candidate word, candidate)
  let near := rated.filter fun entry => entry.1.atLeast confusable
  let sorted := near.mergeSort fun a b =>
    if b.1.atLeast a.1 then a.1.atLeast b.1 && !(a.2 < b.2) else true
  (sorted.take 3).map (·.2)

end NumberingPlan.Text
