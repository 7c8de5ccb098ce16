import Mathlib.Data.List.Basic
import PageLinker.Proofs.Page.FirstSeen

/-!
# Filing by first place

A value is filed under the place at which it stands first, and no later sighting moves it.  So what
is read out rises by first places, and values that are seen later come behind.
-/

namespace PageLinker

namespace FirstSeen

section Filing

variable {α : Type} [BEq α] [LawfulBEq α]

/-- A sighting in the file was there before, or it is the first one of a new value. -/
theorem place_of_mem_foldl_record {values : List α} {filed : List (α × Nat)} {start : Nat}
    {sighting : α × Nat} (listed : sighting ∈ (values.zipIdx start).foldl record filed) :
    sighting ∈ filed ∨
      sighting.1 ∉ filed.map (·.1) ∧ sighting.2 = start + values.idxOf sighting.1 := by
  induction values generalizing filed start with
  | nil => exact .inl listed
  | cons value rest ih =>
      have later (other : sighting.1 ≠ value)
          (place : sighting.2 = start + 1 + rest.idxOf sighting.1) :
          sighting.2 = start + (value :: rest).idxOf sighting.1 := by
        rw [List.idxOf_cons_ne rest other.symm]
        omega
      rw [List.zipIdx_cons, List.foldl_cons, record] at listed
      split at listed
      · next seen =>
          rcases ih listed with before | ⟨fresh, place⟩
          · exact .inl before
          · refine .inr ⟨fresh, later ?_ place⟩
            rintro rfl
            obtain ⟨earlier, member, same⟩ := List.any_eq_true.mp seen
            exact fresh (List.mem_map.mpr ⟨earlier, member, by simpa using same⟩)
      · next unseen =>
          rcases ih listed with filedNow | ⟨fresh, place⟩
          · rcases List.mem_append.mp filedNow with before | new
            · exact .inl before
            · obtain rfl := List.mem_singleton.mp new
              refine .inr ⟨fun seen => unseen ?_, by simp⟩
              obtain ⟨earlier, member, same⟩ := List.mem_map.mp seen
              exact List.any_eq_true.mpr ⟨earlier, member, by simpa using same⟩
          · rw [List.map_append, List.mem_append, not_or] at fresh
            exact .inr ⟨fresh.1, later (by simpa using fresh.2) place⟩

/-- The file holds every value once, under its first place. -/
theorem positions_eq (values : List α) :
    positions values = values.eraseDups.map fun value => (value, values.idxOf value) := by
  have nothingEarlier : ∀ sighting ∈ ([] : List (α × Nat)), sighting.2 < 0 := by simp
  obtain ⟨-, filed⟩ := foldl_record values nothingEarlier .nil List.nodup_nil
  rw [List.map_nil, List.nil_append] at filed
  rw [← filed, List.map_map, positions]
  refine (List.map_id _).symm.trans (List.map_congr_left fun sighting listed => ?_)
  rcases place_of_mem_foldl_record listed with nothing | ⟨-, place⟩
  · cases nothing
  · rw [Nat.zero_add] at place
    exact Prod.ext rfl place

/-- Values are read out in the order of their first places. -/
theorem distinct_pairwise (values : List α) :
    (distinct values).Pairwise fun first second => values.idxOf first < values.idxOf second := by
  have nothingEarlier : ∀ sighting ∈ ([] : List (α × Nat)), sighting.2 < 0 := by simp
  obtain ⟨rising, -⟩ := foldl_record values nothingEarlier .nil List.nodup_nil
  have filed : (positions values).Pairwise fun first second => first.2 < second.2 := rising
  rw [positions_eq, List.pairwise_map] at filed
  rw [distinct_eq_eraseDups]
  exact filed

/-- Values that are left out do not matter for the repetitions of the others. -/
theorem eraseDups_filter (test : α → Bool) (values : List α) :
    (values.filter test).eraseDups = values.eraseDups.filter test := by
  match values with
  | [] => rfl
  | first :: rest =>
      have shorter := List.length_filter_le (fun value => !value == first) rest
      have ofRest := eraseDups_filter test (rest.filter fun value => !value == first)
      rw [List.filter_filter] at ofRest
      rw [List.eraseDups_cons, List.filter_cons, List.filter_cons]
      split
      · rw [List.eraseDups_cons, List.filter_filter, ← ofRest]
        simp only [Bool.and_comm]
      · next dropped =>
          rw [← ofRest]
          refine congrArg List.eraseDups (List.filter_congr fun value _ => ?_)
          by_cases same : value = first
          · simpa [same] using dropped
          · simp [same]
termination_by values.length
decreasing_by
  simp only [List.length_cons]
  omega

/-- Of values that are put behind others, those come behind that are not among the others. -/
theorem distinct_append (values others : List α) :
    distinct (values ++ others) =
      distinct values ++ (distinct others).filter fun value => !values.contains value := by
  simp only [distinct_eq_eraseDups, List.eraseDups_append, List.removeAll, eraseDups_filter]

/-- Repetitions may be dropped before two lists are put together. -/
theorem distinct_append_distinct (values others : List α) :
    distinct (distinct values ++ distinct others) = distinct (values ++ others) := by
  have again (list : List α) : distinct (distinct list) = distinct list := by
    rw [distinct_eq_eraseDups (distinct list), eraseDups_of_nodup (nodup_distinct list)]
  rw [distinct_append, distinct_append, again, again]
  refine congrArg _ (List.filter_congr fun value _ => ?_)
  rw [Bool.eq_iff_iff]
  simp

end Filing

/-- Filing values by their first places and reading them out by place drops the repetitions and
nothing else, and keeps the order of first appearance; what a longer list adds comes behind. -/
theorem distinct_drops_repetitions {Name : Type} [DecidableEq Name] :
    (∀ names : List Name,
      distinct names = names.eraseDups ∧ (distinct names).Nodup ∧
        (∀ name, name ∈ distinct names ↔ name ∈ names) ∧
        ∀ first second, [first, second].Sublist (distinct names) ↔
          first ∈ names ∧ second ∈ names ∧ names.idxOf first < names.idxOf second) ∧
      ∀ names others : List Name, distinct (names ++ others) =
        distinct names ++ (distinct others).filter fun name => name ∉ names := by
  constructor
  · intro names
    refine ⟨distinct_eq_eraseDups names, nodup_distinct names, fun name => mem_distinct, ?_⟩
    intro first second
    have ordered := distinct_pairwise names
    rw [pair_sublist_iff Nat.lt_asymm ordered, mem_distinct, mem_distinct]
  · intro names others
    rw [distinct_append]
    simp

end FirstSeen

end PageLinker
