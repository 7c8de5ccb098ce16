import PageLinker.Catalog

/-!
# Looking things up in a changed catalog

A catalog is seen through `find?`, which says what stands at a place, and `names`, which
enumerates a directory.  Each change of a catalog is described by what it does to these two.
-/

namespace PageLinker

namespace Catalog

variable {Allowed : Route → Prop} {α : Type}

@[simp]
theorem find?_top (catalog : Catalog Allowed α) : catalog.find? [] = some .directory :=
  rfl

theorem find?_of_ne_nil (catalog : Catalog Allowed α) {route : Route} (notTop : route ≠ []) :
    catalog.find? route = catalog.entries.lookup route :=
  if_neg notTop

/-- Looking a place up finds the entry that is listed for it. -/
theorem find?_eq_some_iff (catalog : Catalog Allowed α) {route : Route} (notTop : route ≠ [])
    {entry : Entry α} :
    catalog.find? route = some entry ↔ (route, entry) ∈ catalog.entries := by
  refine ⟨mem_of_find?_eq_some notTop, fun member => ?_⟩
  rw [find?_of_ne_nil catalog notTop, List.lookup_eq_some_iff]
  obtain ⟨before, after, entries⟩ := List.append_of_mem member
  refine ⟨before, after, entries, fun earlier earlierMember => ?_⟩
  have distinct := catalog.distinct
  rw [entries, List.map_append, List.nodup_append] at distinct
  have differ := distinct.2.2 earlier.1 (List.mem_map_of_mem earlierMember) route (by simp)
  simpa using Ne.symm differ

/-- A new entry is found at its place, and nothing else changes. -/
theorem find?_append (catalog : Catalog Allowed α) {route : Route} (entry : Entry α)
    (free : catalog.IsFree route) (other : Route) :
    (catalog.append route entry free).find? other =
      if other = route then some entry else catalog.find? other := by
  by_cases top : other = []
  · subst top
    rw [find?_top, if_neg (Ne.symm free.1), find?_top]
  · rw [find?_of_ne_nil _ top, find?_of_ne_nil _ top, append, List.lookup_append]
    have missing := free.2.2.1
    rw [find?_of_ne_nil _ free.1, Option.isNone_iff_eq_none] at missing
    by_cases same : other = route
    · subst same
      simp [missing]
    · have differ : (other == route) = false := beq_eq_false_iff_ne.mpr same
      simp [List.lookup_cons, differ, same]

/-- A new entry is enumerated last in its directory. -/
theorem names_append (catalog : Catalog Allowed α) {route : Route} (entry : Entry α)
    (free : catalog.IsFree route) (directory : Route) :
    (catalog.append route entry free).names directory =
      catalog.names directory ++ (nameWithin directory route).toList := by
  rw [names, append, List.filterMap_append]
  cases within : nameWithin directory route <;> simp [names, within]

theorem lookup_refilled (entries : List (Route × Entry α)) (route : Route) (content : α)
    (other : Route) :
    (entries.map fun entry =>
        if entry.1 = route then (entry.1, entry.2.refilled content) else entry).lookup other =
      if other = route then (entries.lookup other).map (Entry.refilled content)
      else entries.lookup other := by
  induction entries with
  | nil => simp
  | cons first rest ih =>
      obtain ⟨firstRoute, firstEntry⟩ := first
      rw [List.map_cons, List.lookup_cons]
      by_cases here : other = firstRoute
      · subst here
        by_cases same : other = route <;> simp [same]
      · have differ : (other == firstRoute) = false := beq_eq_false_iff_ne.mpr here
        have unmoved : (if firstRoute = route then
            (firstRoute, firstEntry.refilled content) else (firstRoute, firstEntry)).1 =
              firstRoute := by
          split <;> rfl
        rw [List.lookup_cons, unmoved, differ]
        exact ih

/-- A leaf with a new content is found at its place, and nothing else changes. -/
theorem find?_refill (catalog : Catalog Allowed α) (route : Route) (content : α)
    (other : Route) :
    (catalog.refill route content).find? other =
      if other = route then (catalog.find? other).map (Entry.refilled content)
      else catalog.find? other := by
  by_cases top : other = []
  · subst top
    split <;> rfl
  · rw [find?_of_ne_nil _ top, find?_of_ne_nil _ top]
    exact lookup_refilled catalog.entries route content other

/-- Refilling a leaf changes no enumeration. -/
@[simp]
theorem names_refill (catalog : Catalog Allowed α) (route : Route) (content : α)
    (directory : Route) :
    (catalog.refill route content).names directory = catalog.names directory := by
  rw [names, names, refill, List.filterMap_map]
  congr 1
  funext entry
  simp only [Function.comp]
  split <;> rfl

/-- A route has a name within a directory exactly when it is the directory's with that name
behind it. -/
theorem nameWithin_eq_some_iff {directory route : Route} {name : String} :
    nameWithin directory route = some name ↔ route = directory ++ [name] := by
  constructor
  · intro within
    rw [nameWithin] at within
    split at within
    · next above =>
        obtain ⟨names, rfl⟩ := List.getLast?_eq_some_iff.mp within
        rw [← above, List.dropLast_concat]
    · cases within
  · rintro rfl
    simp [nameWithin]

/-- A directory enumerates exactly the names under which something stands in it. -/
theorem mem_names_iff (catalog : Catalog Allowed α) {directory : Route} {name : String} :
    name ∈ catalog.names directory ↔ (catalog.find? (directory ++ [name])).isSome := by
  have notTop : directory ++ [name] ≠ [] := by simp
  rw [names, List.mem_filterMap, Option.isSome_iff_exists]
  constructor
  · rintro ⟨⟨route, entry⟩, member, within⟩
    rw [nameWithin_eq_some_iff] at within
    subst within
    exact ⟨entry, (catalog.find?_eq_some_iff notTop).mpr member⟩
  · rintro ⟨entry, found⟩
    exact ⟨_, (catalog.find?_eq_some_iff notTop).mp found, nameWithin_eq_some_iff.mpr rfl⟩

/-- A directory enumerates no name twice. -/
theorem names_nodup (catalog : Catalog Allowed α) (directory : Route) :
    (catalog.names directory).Nodup := by
  have routes : catalog.names directory =
      (catalog.entries.map (·.1)).filterMap (nameWithin directory) := by
    rw [names, List.filterMap_map]
    rfl
  rw [routes]
  refine List.Pairwise.filterMap _ ?_ catalog.distinct
  rintro first second differ name firstName other secondName rfl
  exact differ ((nameWithin_eq_some_iff.mp firstName).trans
    (nameWithin_eq_some_iff.mp secondName).symm)

end Catalog

end PageLinker
