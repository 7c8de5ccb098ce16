/-!
# Sorting by insertion

A list is sorted by putting its values in their places one by one, the last one first.  Values
that come in order are put in front at once, which is the usual case here.
-/

namespace PageLinker

namespace Sorting

variable {α : Type}

/-- Put a value in front of the first one that it may precede. -/
def insertInto (mayPrecede : α → α → Bool) (value : α) : List α → List α
  | [] => [value]
  | first :: rest =>
      if mayPrecede value first then value :: first :: rest
      else first :: insertInto mayPrecede value rest

/-- The values in an order in which each may precede the next. -/
def sorted (mayPrecede : α → α → Bool) : List α → List α
  | [] => []
  | value :: rest => insertInto mayPrecede value (sorted mayPrecede rest)

theorem insertInto_perm (mayPrecede : α → α → Bool) (value : α) (values : List α) :
    (insertInto mayPrecede value values).Perm (value :: values) := by
  induction values with
  | nil => exact .refl _
  | cons first rest ih =>
      by_cases front : mayPrecede value first
      · simp [insertInto, front]
      · simp only [insertInto, front]
        exact (ih.cons first).trans (.swap value first rest)

/-- Sorting neither loses nor repeats a value. -/
theorem sorted_perm (mayPrecede : α → α → Bool) (values : List α) :
    (sorted mayPrecede values).Perm values := by
  induction values with
  | nil => exact .refl _
  | cons value rest ih => exact (insertInto_perm mayPrecede value _).trans (ih.cons value)

theorem insertInto_pairwise {mayPrecede : α → α → Bool}
    (transitive : ∀ first second third, mayPrecede first second → mayPrecede second third →
      mayPrecede first third)
    (total : ∀ first second, mayPrecede first second ∨ mayPrecede second first)
    (value : α) {values : List α}
    (ordered : values.Pairwise (fun first second => mayPrecede first second)) :
    (insertInto mayPrecede value values).Pairwise
      (fun first second => mayPrecede first second) := by
  induction ordered with
  | nil => simp [insertInto]
  | @cons first rest beforeRest ordered ih =>
      by_cases front : mayPrecede value first
      · simp only [insertInto, front, if_true, List.pairwise_cons]
        refine ⟨fun other member => ?_, beforeRest, ordered⟩
        rcases List.mem_cons.mp member with rfl | later
        · exact front
        · exact transitive _ _ _ front (beforeRest other later)
      · simp only [insertInto, front, Bool.false_eq_true, if_false, List.pairwise_cons]
        refine ⟨fun other member => ?_, ih⟩
        rcases List.mem_cons.mp ((insertInto_perm mayPrecede value rest).mem_iff.mp member) with
          rfl | later
        · exact (total first other).resolve_right front
        · exact beforeRest other later

/-- Sorting by a total order leaves the values in that order. -/
theorem sorted_pairwise {mayPrecede : α → α → Bool}
    (transitive : ∀ first second third, mayPrecede first second → mayPrecede second third →
      mayPrecede first third)
    (total : ∀ first second, mayPrecede first second ∨ mayPrecede second first)
    (values : List α) : (sorted mayPrecede values).Pairwise
      (fun first second => mayPrecede first second) := by
  induction values with
  | nil => exact .nil
  | cons value rest ih => exact insertInto_pairwise transitive total value ih

end Sorting

end PageLinker
