import PageLinker.Sorting

/-!
# Order of first appearance

Repeated values are dropped and the others keep the order in which they were first seen.  Each
value is filed under the position of its first appearance, and the file is read out by position.
-/

namespace PageLinker

namespace FirstSeen

variable {α : Type} [BEq α]

/-- File a value under its position, unless it has been filed before. -/
def record (filed : List (α × Nat)) (sighting : α × Nat) : List (α × Nat) :=
  if filed.any (·.1 == sighting.1) then filed else filed ++ [sighting]

/-- Every value with the position of its first appearance. -/
def positions (values : List α) : List (α × Nat) :=
  values.zipIdx.foldl record []

/-- The values in order of first appearance, each once. -/
def distinct (values : List α) : List α :=
  (Sorting.sorted (·.2 ≤ ·.2) (positions values)).map (·.1)

end FirstSeen

end PageLinker
