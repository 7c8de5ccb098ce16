import Mathlib.Data.List.Perm.Basic
import PageLinker.Proofs.Memory.Effects
import PageLinker.Proofs.Memory.Pruning

/-!
# Memories that differ in the order of entries

Two memories have the same entries when they hold the same at every place.  Their directories then
enumerate the same names, though perhaps in another order.
-/

namespace PageLinker

deriving instance DecidableEq for Entry

namespace Catalog

variable {Allowed : Route → Prop} {α : Type}

/-- The same stands at every place.  Directories may enumerate their entries in another order. -/
def SameEntries (first second : Catalog Allowed α) : Prop :=
  ∀ route, first.find? route = second.find? route

theorem names_perm_of_isSome_eq {first second : Catalog Allowed α} {directory : Route}
    (present : ∀ name, (first.find? (directory ++ [name])).isSome =
      (second.find? (directory ++ [name])).isSome) :
    (first.names directory).Perm (second.names directory) := by
  refine (List.perm_ext_iff_of_nodup (first.names_nodup _) (second.names_nodup _)).mpr ?_
  intro name
  rw [mem_names_iff, mem_names_iff, present]

theorem sameEntries_of_perm {first second : Catalog Allowed α}
    (same : first.entries.Perm second.entries) : first.SameEntries second := by
  intro route
  by_cases top : route = []
  · subst top
    rfl
  · ext entry
    rw [find?_eq_some_iff _ top, find?_eq_some_iff _ top, same.mem_iff]

namespace SameEntries

variable {first second : Catalog Allowed α} (same : first.SameEntries second)
include same

theorem symm : second.SameEntries first :=
  fun route => (same route).symm

theorem names_perm (directory : Route) :
    (first.names directory).Perm (second.names directory) :=
  names_perm_of_isSome_eq fun name => by rw [same]

theorem isDirectory_eq (route : Route) : first.isDirectory route = second.isDirectory route := by
  rw [isDirectory, isDirectory, same]

end SameEntries

end Catalog

namespace Memory

variable {memory other left otherLeft : Memory}

/-- Of writes at distinct places, each one is there at the end. -/
theorem find?_writeAll_of_mem {writes : List (Path × String)}
    (distinct : (writes.map (·.1)).Nodup) (done : memory.writeAll writes = .ok left)
    {write : Path × String} (listed : write ∈ writes) :
    left.find? write.1.steps = some (.leaf write.2) := by
  induction writes generalizing memory with
  | nil => cases listed
  | cons first rest ih =>
      obtain ⟨notLater, distinctRest⟩ := List.nodup_cons.mp distinct
      obtain ⟨written, granted, later⟩ := except_bind_eq_ok.mp done
      rcases List.mem_cons.mp listed with rfl | inRest
      · have untouched : ∀ other ∈ rest, other.1.steps ≠ write.1.steps := by
          intro other member same
          refine notLater (List.mem_map.mpr ⟨other, member, ?_⟩)
          exact Path.steps_injective same
        rw [find?_writeAll_of_untouched later untouched, Catalog.find?_write granted, if_pos rfl]
      · exact ih distinctRest later inRest

/-- Where the same is written at most, memories with the same entries still hold the same. -/
theorem find?_eq_of_writeAll {writes otherWrites : List (Path × String)}
    (same : memory.SameEntries other)
    (distinct : (writes.map (·.1)).Nodup) (otherDistinct : (otherWrites.map (·.1)).Nodup)
    (done : memory.writeAll writes = .ok left)
    (otherDone : other.writeAll otherWrites = .ok otherLeft) {route : Route}
    (shared : ∀ write, write.1.steps = route → (write ∈ writes ↔ write ∈ otherWrites)) :
    left.find? route = otherLeft.find? route := by
  by_cases written : ∃ write ∈ writes, write.1.steps = route
  · obtain ⟨write, listed, rfl⟩ := written
    rw [find?_writeAll_of_mem distinct done listed,
      find?_writeAll_of_mem otherDistinct otherDone ((shared write rfl).mp listed)]
  · have untouched : ∀ write ∈ writes, write.1.steps ≠ route :=
      fun write listed place => written ⟨write, listed, place⟩
    have otherUntouched : ∀ write ∈ otherWrites, write.1.steps ≠ route :=
      fun write listed place => untouched write ((shared write place).mpr listed) place
    rw [find?_writeAll_of_untouched done untouched,
      find?_writeAll_of_untouched otherDone otherUntouched, same]

end Memory

end PageLinker
