import PageLinker.FirstSeen

/-!
# Reading out the file of first positions

Values are filed in the order of the text, so their positions rise and reading them out by position
moves none of them.  What is read out is the list without its repetitions, in the order of the first
places of its values.
-/

namespace PageLinker

namespace Sorting

/-- Values that come in order are left as they are. -/
theorem sorted_eq_self {α : Type} {mayPrecede : α → α → Bool} {values : List α}
    (ordered : values.Pairwise fun first second => mayPrecede first second) :
    sorted mayPrecede values = values := by
  induction ordered with
  | nil => rfl
  | @cons value rest before ordered ih =>
      rw [sorted, ih]
      cases rest with
      | nil => rfl
      | cons next others => rw [insertInto, if_pos (before next (by simp))]

end Sorting

namespace FirstSeen

section Places

variable {α : Type}

/-- The search finds the value at the place. -/
def Finds (search : Nat → Option α) (place : Nat) (value : α) : Prop :=
  search place = some value

/-- The value stands at the place and at none before it. -/
def IsFirstPlace (standsAt : Nat → α → Prop) (place : Nat) (value : α) : Prop :=
  standsAt place value ∧ ∀ earlier < place, ¬ standsAt earlier value

theorem IsFirstPlace.unique {standsAt : Nat → α → Prop} {place other : Nat} {value : α}
    (first : IsFirstPlace standsAt place value) (also : IsFirstPlace standsAt other value) :
    place = other := by
  rcases Nat.lt_trichotomy place other with before | same | after
  · exact absurd first.1 (also.2 place before)
  · exact same
  · exact absurd also.1 (first.2 other after)

/-- A value that stands somewhere has a first place. -/
theorem exists_isFirstPlace (standsAt : Nat → α → Prop) {place : Nat} {value : α}
    (stands : standsAt place value) : ∃ first ≤ place, IsFirstPlace standsAt first value := by
  induction place using Nat.strongRecOn with
  | ind place ih =>
      by_cases earlier : ∃ other < place, standsAt other value
      · obtain ⟨other, before, standsEarlier⟩ := earlier
        obtain ⟨first, notAfter, isFirst⟩ := ih other before standsEarlier
        exact ⟨first, Nat.le_trans notAfter (Nat.le_of_lt before), isFirst⟩
      · refine ⟨place, Nat.le_refl place, stands, fun other before standsEarlier => ?_⟩
        exact earlier ⟨other, before, standsEarlier⟩

/-- The first place of one value is smaller than that of the other. -/
def AppearsBefore (standsAt : Nat → α → Prop) (first second : α) : Prop :=
  ∃ place later, place < later ∧ IsFirstPlace standsAt place first ∧
    IsFirstPlace standsAt later second

theorem AppearsBefore.asymm {standsAt : Nat → α → Prop} {first second : α}
    (before : AppearsBefore standsAt first second) : ¬ AppearsBefore standsAt second first := by
  obtain ⟨place, later, rising, isFirst, isSecond⟩ := before
  rintro ⟨other, last, alsoRising, alsoSecond, alsoFirst⟩
  obtain rfl := isFirst.unique alsoFirst
  obtain rfl := isSecond.unique alsoSecond
  omega

/-- Of values in a strict order, one stands before another exactly when it precedes it. -/
theorem pair_sublist_iff {precedes : α → α → Prop} {values : List α}
    (asymmetric : ∀ {first second}, precedes first second → ¬ precedes second first)
    (ordered : values.Pairwise precedes) {first second : α} :
    [first, second].Sublist values ↔
      first ∈ values ∧ second ∈ values ∧ precedes first second := by
  constructor
  · intro inOrder
    have pair := ordered.sublist inOrder
    exact ⟨inOrder.subset (by simp), inOrder.subset (by simp), by simpa using pair⟩
  · rintro ⟨firstListed, secondListed, before⟩
    obtain ⟨front, back, rfl⟩ := List.append_of_mem firstListed
    obtain ⟨-, -, across⟩ := List.pairwise_append.mp ordered
    have inBack : second ∈ back := by
      rcases List.mem_append.mp secondListed with inFront | later
      · exact absurd (across second inFront first (by simp)) (asymmetric before)
      · rcases List.mem_cons.mp later with rfl | inBack
        · exact absurd before (asymmetric before)
        · exact inBack
    have pair := (List.singleton_sublist.mpr inBack).cons_cons first
    exact pair.trans (List.sublist_append_right front _)

end Places

variable {α : Type} [BEq α] [LawfulBEq α]

/-- Repetitions of earlier values do not count. -/
theorem eraseDups_append_cons_of_mem {earlier : List α} {value : α} (seen : value ∈ earlier)
    (later : List α) : (earlier ++ value :: later).eraseDups = (earlier ++ later).eraseDups := by
  rw [List.eraseDups_append, List.eraseDups_append, List.cons_removeAll]
  simp [seen]

theorem nodup_eraseDups (values : List α) : values.eraseDups.Nodup := by
  match values with
  | [] => simp
  | first :: rest =>
      rw [List.eraseDups_cons, List.nodup_cons]
      have shorter := List.length_filter_le (fun value => !value == first) rest
      exact ⟨by simp, nodup_eraseDups _⟩
termination_by values.length
decreasing_by
  simp only [List.length_cons]
  omega

theorem eraseDups_of_nodup {values : List α} (distinct : values.Nodup) :
    values.eraseDups = values := by
  induction values with
  | nil => rfl
  | cons first rest ih =>
      obtain ⟨fresh, distinctRest⟩ := List.nodup_cons.mp distinct
      have kept : (rest.filter fun value => !value == first) = rest := by
        rw [List.filter_eq_self]
        intro value member
        have differ : value ≠ first := fun same => fresh (same ▸ member)
        simpa using differ
      rw [List.eraseDups_cons, kept, ih distinctRest]

/-- Filing values goes on where it stands: positions keep rising, and the values that are filed are
the distinct ones. -/
theorem foldl_record (values : List α) {filed : List (α × Nat)} {start : Nat}
    (earlier : ∀ sighting ∈ filed, sighting.2 < start)
    (rising : filed.Pairwise fun first second => first.2 < second.2)
    (distinct : (filed.map (·.1)).Nodup) :
    let all := (values.zipIdx start).foldl record filed
    all.Pairwise (fun first second => first.2 < second.2) ∧
      all.map (·.1) = (filed.map (·.1) ++ values).eraseDups := by
  induction values generalizing filed start with
  | nil => exact ⟨rising, by simp [eraseDups_of_nodup distinct]⟩
  | cons value rest ih =>
      rw [List.zipIdx_cons, List.foldl_cons, record]
      by_cases seen : value ∈ filed.map (·.1)
      · have found : filed.any (·.1 == value) = true := by
          obtain ⟨sighting, member, same⟩ := List.mem_map.mp seen
          exact List.any_eq_true.mpr ⟨sighting, member, by simp [same]⟩
        rw [if_pos found, eraseDups_append_cons_of_mem seen]
        exact ih (fun sighting member => Nat.lt_succ_of_lt (earlier sighting member)) rising
          distinct
      · have absent : filed.any (·.1 == value) = false := by
          rw [List.any_eq_false]
          intro sighting member same
          exact seen (List.mem_map.mpr ⟨sighting, member, by simpa using same⟩)
        have extended := @ih (filed ++ [(value, start)]) (start + 1) ?_ ?_ ?_
        · simpa [absent] using extended
        · intro sighting member
          rcases List.mem_append.mp member with old | new
          · exact Nat.lt_succ_of_lt (earlier sighting old)
          · rw [List.mem_singleton.mp new]
            exact Nat.lt_succ_self start
        · refine List.pairwise_append.mpr ⟨rising, List.pairwise_singleton _ _, ?_⟩
          intro sighting member new isNew
          rw [List.mem_singleton.mp isNew]
          exact earlier sighting member
        · rw [List.map_append, List.nodup_append]
          refine ⟨distinct, by simp, ?_⟩
          rintro old member new isNew rfl
          obtain rfl : old = value := by simpa using isNew
          exact seen member

/-- Filing and reading out drops the repetitions and nothing else. -/
theorem distinct_eq_eraseDups (values : List α) : distinct values = values.eraseDups := by
  have nothingEarlier : ∀ sighting ∈ ([] : List (α × Nat)), sighting.2 < 0 := by simp
  obtain ⟨rising, filed⟩ := foldl_record values nothingEarlier .nil List.nodup_nil
  have ordered : (positions values).Pairwise fun first second =>
      decide (first.2 ≤ second.2) = true :=
    rising.imp fun before => by simpa using Nat.le_of_lt before
  rw [distinct, Sorting.sorted_eq_self ordered]
  exact filed

theorem nodup_distinct (values : List α) : (distinct values).Nodup := by
  rw [distinct_eq_eraseDups]
  exact nodup_eraseDups values

@[simp]
theorem mem_distinct {values : List α} {value : α} : value ∈ distinct values ↔ value ∈ values := by
  rw [distinct_eq_eraseDups, List.mem_eraseDups]

theorem eraseDups_concat (values : List α) (value : α) :
    (values ++ [value]).eraseDups =
      if value ∈ values then values.eraseDups else values.eraseDups ++ [value] := by
  rw [List.eraseDups_append, List.cons_removeAll]
  by_cases seen : value ∈ values <;> simp [seen, List.eraseDups_cons]

/-- What a search finds at rising places is read out in the order of first places. -/
theorem distinct_filterMap_pairwise (search : Nat → Option α) (bound : Nat) :
    (distinct ((List.range bound).filterMap search)).Pairwise (AppearsBefore (Finds search)) := by
  rw [distinct_eq_eraseDups]
  induction bound with
  | zero => exact .nil
  | succ place ih =>
      rw [List.range_succ, List.filterMap_append]
      cases here : search place with
      | none => simpa [here] using ih
      | some value =>
          rw [List.filterMap_cons_some here, List.filterMap_nil, eraseDups_concat]
          split
          · exact ih
          · next fresh =>
              have isFirst : IsFirstPlace (Finds search) place value := by
                refine ⟨here, fun earlier before found => fresh ?_⟩
                exact List.mem_filterMap.mpr ⟨earlier, List.mem_range.mpr before, found⟩
              refine List.pairwise_append.mpr ⟨ih, List.pairwise_singleton _ _, ?_⟩
              intro other listed
              obtain ⟨earlier, inRange, found⟩ :=
                List.mem_filterMap.mp (List.mem_eraseDups.mp listed)
              obtain ⟨first, notAfter, isOther⟩ := exists_isFirstPlace (Finds search) found
              have before := List.mem_range.mp inRange
              simpa using ⟨first, place, by omega, isOther, isFirst⟩

/-- One value is read out before another when its first place is smaller. -/
theorem pair_sublist_distinct_iff {search : Nat → Option α} {bound : Nat} {first second : α}
    (bounded : ∀ place value, Finds search place value → place < bound) :
    [first, second].Sublist (distinct ((List.range bound).filterMap search)) ↔
      AppearsBefore (Finds search) first second := by
  rw [pair_sublist_iff AppearsBefore.asymm (distinct_filterMap_pairwise search bound)]
  constructor
  · rintro ⟨-, -, before⟩
    exact before
  · intro before
    have isListed {place : Nat} {value : α} (found : Finds search place value) :
        value ∈ distinct ((List.range bound).filterMap search) :=
      mem_distinct.mpr (List.mem_filterMap.mpr
        ⟨place, List.mem_range.mpr (bounded place value found), found⟩)
    obtain ⟨place, later, rising, isFirst, isSecond⟩ := before
    exact ⟨isListed isFirst.1, isListed isSecond.1, place, later, rising, isFirst, isSecond⟩

end FirstSeen

end PageLinker
