import Mathlib.Data.List.Basic
import PageLinker.Proofs.Memory.Shape

/-!
# Memories with files taken away

Files can be taken away without harm to what is left: every directory stays, and enumerates its
other entries as before.
-/

namespace PageLinker

namespace Catalog

variable {Allowed : Route → Prop} {α : Type}

theorem find?_of_mem_entries (catalog : Catalog Allowed α) {entry : Route × Entry α}
    (listed : entry ∈ catalog.entries) : catalog.find? entry.1 = some entry.2 :=
  (catalog.find?_eq_some_iff (catalog.allowed entry listed).1).mpr listed

/-- The catalog without its leaves at the given places. -/
def withoutLeaves (catalog : Catalog Allowed α) (dropped : Route → Prop)
    [DecidablePred dropped] : Catalog Allowed α where
  entries := catalog.entries.filter fun entry => entry.2.isDirectory || !dropped entry.1
  distinct := catalog.distinct.sublist (List.filter_sublist.map _)
  allowed := fun entry listed => catalog.allowed entry (List.mem_filter.mp listed).1
  sheltered := by
    intro entry listed
    refine (catalog.sheltered entry (List.mem_filter.mp listed).1).imp_right fun parent => ?_
    exact List.mem_filter.mpr ⟨parent, rfl⟩

section Pruning

variable (catalog : Catalog Allowed α) (dropped : Route → Prop) [DecidablePred dropped]

theorem find?_withoutLeaves (route : Route) :
    (catalog.withoutLeaves dropped).find? route =
      (catalog.find? route).filter fun entry => entry.isDirectory || !dropped route := by
  by_cases top : route = []
  · subst top
    rfl
  · ext entry
    rw [find?_eq_some_iff _ top, Option.filter_eq_some_iff, catalog.find?_eq_some_iff top,
      withoutLeaves, List.mem_filter]

theorem find?_withoutLeaves_of_kept {route : Route} (kept : ¬ dropped route) :
    (catalog.withoutLeaves dropped).find? route = catalog.find? route := by
  rw [find?_withoutLeaves]
  cases catalog.find? route <;> simp [kept]

@[simp]
theorem isDirectory_withoutLeaves (route : Route) :
    (catalog.withoutLeaves dropped).isDirectory route = catalog.isDirectory route := by
  rw [isDirectory, isDirectory, find?_withoutLeaves]
  cases catalog.find? route with
  | none => rfl
  | some entry =>
      by_cases gone : dropped route <;> cases entry <;>
        simp [gone, Entry.isDirectory, Option.filter_some]

theorem names_withoutLeaves (directory : Route) :
    (catalog.withoutLeaves dropped).names directory =
      (catalog.names directory).filter fun name =>
        catalog.isDirectory (directory ++ [name]) || !dropped (directory ++ [name]) := by
  rw [names, names, withoutLeaves, List.filterMap_filter, List.filter_filterMap]
  refine List.filterMap_congr fun entry listed => ?_
  cases within : nameWithin directory entry.1 with
  | none => simp
  | some name =>
      have found := catalog.find?_of_mem_entries listed
      rw [nameWithin_eq_some_iff.mp within] at found ⊢
      have kind : catalog.isDirectory (directory ++ [name]) = entry.2.isDirectory := by
        rw [isDirectory, found]
        rfl
      simp only [Option.filter, kind]

end Pruning

theorem isDirectory_eq_true_iff (catalog : Catalog Allowed α) {route : Route} :
    catalog.isDirectory route = true ↔ catalog.find? route = some .directory := by
  rw [isDirectory]
  cases catalog.find? route with
  | none => simp
  | some entry => cases entry <;> simp [Entry.isDirectory]

theorem SameShape.isDirectory_eq {first second : Catalog Allowed α}
    (same : first.SameShape second) (route : Route) :
    first.isDirectory route = second.isDirectory route := by
  rw [isDirectory, isDirectory, same.kinds]

/-- The places and kinds of all entries, in their order, make up the shape. -/
theorem sameShape_of_outline {first second : Catalog Allowed α}
    (same : first.entries.map (fun entry => (entry.1, entry.2.isDirectory)) =
      second.entries.map fun entry => (entry.1, entry.2.isDirectory)) :
    first.SameShape second := by
  have kindOf (entries : List (Route × Entry α)) (route : Route) :
      (entries.lookup route).map Entry.isDirectory =
        (entries.map fun entry => (entry.1, entry.2.isDirectory)).lookup route := by
    induction entries with
    | nil => rfl
    | cons entry rest ih =>
        rw [List.map_cons, List.lookup_cons, List.lookup_cons]
        cases route == entry.1 with
        | true => rfl
        | false => exact ih
  refine ⟨fun route => ?_, fun directory => ?_⟩
  · by_cases top : route = []
    · subst top
      rfl
    · rw [find?_of_ne_nil _ top, find?_of_ne_nil _ top, kindOf, kindOf, same]
  · have routes (catalog : Catalog Allowed α) : catalog.names directory =
        (catalog.entries.map fun entry => (entry.1, entry.2.isDirectory)).filterMap
          fun outlined => nameWithin directory outlined.1 := by
      rw [names, List.filterMap_map]
      rfl
    rw [routes, routes, same]

end Catalog

end PageLinker
