import PageLinker.Failure

/-!
# Catalogs of directories and files

A catalog lists what stands where, in the order in which the entries were made.  A place is given
by the route of names that leads to it from the top.  Every entry stands in a directory, no place
is taken twice, and only allowed routes are taken.  The top itself is a directory that is always
there.
-/

namespace PageLinker

/-- The names that lead to a place, from the top inwards. -/
abbrev Route := List String

/-- The routes to the places that a route passes through, its end left out. -/
def passedPlaces (route : Route) : List Route :=
  (List.range route.length).map route.take

/-- What stands at a place: a directory, or something without entries of its own. -/
inductive Entry (α : Type) where
  | directory
  | leaf (content : α)

namespace Entry

variable {α : Type}

def isDirectory : Entry α → Bool
  | .directory => true
  | .leaf _ => false

def map {β : Type} (change : α → β) : Entry α → Entry β
  | .directory => .directory
  | .leaf content => .leaf (change content)

/-- The entry with another content, if it has a content at all. -/
def refilled (content : α) : Entry α → Entry α
  | .directory => .directory
  | .leaf _ => .leaf content

end Entry

/-- What stands where, in the order of making. -/
structure Catalog (Allowed : Route → Prop) (α : Type) where
  entries : List (Route × Entry α)
  distinct : (entries.map (·.1)).Nodup
  allowed : ∀ entry ∈ entries, entry.1 ≠ [] ∧ Allowed entry.1
  sheltered : ∀ entry ∈ entries,
    entry.1.dropLast = [] ∨ (entry.1.dropLast, Entry.directory) ∈ entries

namespace Catalog

variable {Allowed : Route → Prop} {α : Type}

/-- The catalog that has the top only. -/
def empty : Catalog Allowed α where
  entries := []
  distinct := by simp
  allowed := by simp
  sheltered := by simp

/-- What stands at a place. -/
def find? (catalog : Catalog Allowed α) (route : Route) : Option (Entry α) :=
  if route = [] then some .directory else catalog.entries.lookup route

def isDirectory (catalog : Catalog Allowed α) (route : Route) : Bool :=
  ((catalog.find? route).map Entry.isDirectory).getD false

/-- The last name of a route that leads from a directory to one of its entries. -/
def nameWithin (directory route : Route) : Option String :=
  if route.dropLast = directory then route.getLast? else none

/-- The names of the entries of a directory, in the order of making. -/
def names (catalog : Catalog Allowed α) (directory : Route) : List String :=
  catalog.entries.filterMap fun entry => nameWithin directory entry.1

/-- Why nothing can be found at a place: a file stands on the way, or something is missing. -/
def absence (catalog : Catalog Allowed α) (route : Route) : Refusal :=
  if (passedPlaces route).any fun above => (catalog.find? above).any (!·.isDirectory)
  then .notDirectory
  else .notFound

/-- Give the leaf at a place a new content.  It keeps its place in the order. -/
def refill (catalog : Catalog Allowed α) (route : Route) (content : α) :
    Catalog Allowed α where
  entries := catalog.entries.map fun entry =>
    if entry.1 = route then (entry.1, entry.2.refilled content) else entry
  distinct := by
    have unchanged : ((·.1) ∘ fun entry : Route × Entry α =>
        if entry.1 = route then (entry.1, entry.2.refilled content) else entry) = (·.1) := by
      funext entry
      simp only [Function.comp]
      split <;> rfl
    rw [List.map_map, unchanged]
    exact catalog.distinct
  allowed := by
    intro entry member
    obtain ⟨old, oldMember, rfl⟩ := List.mem_map.mp member
    have fact := catalog.allowed old oldMember
    split <;> exact fact
  sheltered := by
    intro entry member
    obtain ⟨old, oldMember, rfl⟩ := List.mem_map.mp member
    have sameRoute : (if old.1 = route then (old.1, old.2.refilled content) else old).1 = old.1 := by
      split <;> rfl
    rw [sameRoute]
    rcases catalog.sheltered old oldMember with top | parent
    · exact .inl top
    · refine .inr (List.mem_map.mpr ⟨_, parent, ?_⟩)
      split <;> rfl

/-- A place of its own for an entry: it is allowed and free, and it lies in a directory. -/
def IsFree (catalog : Catalog Allowed α) (route : Route) : Prop :=
  route ≠ [] ∧ Allowed route ∧ (catalog.find? route).isNone ∧ catalog.isDirectory route.dropLast

instance [DecidablePred Allowed] (catalog : Catalog Allowed α) (route : Route) :
    Decidable (catalog.IsFree route) :=
  inferInstanceAs (Decidable (_ ∧ _ ∧ _ ∧ _))

theorem mem_of_find?_eq_some {catalog : Catalog Allowed α} {route : Route} {entry : Entry α}
    (notTop : route ≠ []) (found : catalog.find? route = some entry) :
    (route, entry) ∈ catalog.entries := by
  rw [find?, if_neg notTop] at found
  obtain ⟨before, after, split, _⟩ := List.lookup_eq_some_iff.mp found
  rw [split]
  simp

theorem not_mem_of_find?_isNone {catalog : Catalog Allowed α} {route : Route}
    (missing : (catalog.find? route).isNone) : route ∉ catalog.entries.map (·.1) := by
  intro member
  obtain ⟨entry, entryMember, rfl⟩ := List.mem_map.mp member
  have notTop := (catalog.allowed entry entryMember).1
  rw [find?, if_neg notTop, Option.isNone_iff_eq_none, List.lookup_eq_none_iff] at missing
  simpa using missing entry entryMember

theorem top_or_mem_of_isDirectory {catalog : Catalog Allowed α} {route : Route}
    (directory : catalog.isDirectory route) :
    route = [] ∨ (route, Entry.directory) ∈ catalog.entries := by
  by_cases top : route = []
  · exact .inl top
  · refine .inr ?_
    rw [isDirectory] at directory
    match found : catalog.find? route with
    | none => simp [found] at directory
    | some (.leaf content) => simp [found, Entry.isDirectory] at directory
    | some .directory => exact mem_of_find?_eq_some top found

/-- Make an entry at a free place, as the last one. -/
def append (catalog : Catalog Allowed α) (route : Route) (entry : Entry α)
    (free : catalog.IsFree route) : Catalog Allowed α where
  entries := catalog.entries ++ [(route, entry)]
  distinct := by
    rw [List.map_append, List.nodup_append]
    refine ⟨catalog.distinct, by simp, ?_⟩
    intro taken member other otherMember equal
    simp only [List.map_cons, List.map_nil, List.mem_singleton] at otherMember
    subst otherMember
    subst equal
    exact not_mem_of_find?_isNone free.2.2.1 member
  allowed := by
    intro some_ member
    rcases List.mem_append.mp member with old | new
    · exact catalog.allowed some_ old
    · rw [List.mem_singleton.mp new]
      exact ⟨free.1, free.2.1⟩
  sheltered := by
    intro some_ member
    rcases List.mem_append.mp member with old | new
    · rcases catalog.sheltered some_ old with top | parent
      · exact .inl top
      · exact .inr (List.mem_append.mpr (.inl parent))
    · rw [List.mem_singleton.mp new]
      rcases top_or_mem_of_isDirectory free.2.2.2 with top | parent
      · exact .inl top
      · exact .inr (List.mem_append.mpr (.inl parent))

/-- Make an entry, or say why it cannot be made. -/
def add [DecidablePred Allowed] (catalog : Catalog Allowed α) (route : Route) (entry : Entry α) :
    Except Refusal (Catalog Allowed α) :=
  if free : catalog.IsFree route then .ok (catalog.append route entry free)
  else .error (catalog.absence route)

/-- Write a leaf: give an old one its new content in its place, or make a new one. -/
def write [DecidablePred Allowed] (catalog : Catalog Allowed α) (route : Route) (content : α) :
    Except Refusal (Catalog Allowed α) :=
  match catalog.find? route with
  | some .directory => .error .isDirectory
  | some (.leaf _) => .ok (catalog.refill route content)
  | none => catalog.add route (.leaf content)

/-- Take an entry away together with everything below it. -/
def remove (catalog : Catalog Allowed α) (route : Route) : Catalog Allowed α where
  entries := catalog.entries.filter fun entry => !route.isPrefixOf entry.1
  distinct := catalog.distinct.sublist (List.filter_sublist.map _)
  allowed := fun entry member => catalog.allowed entry (List.mem_filter.mp member).1
  sheltered := by
    intro entry member
    obtain ⟨old, kept⟩ := List.mem_filter.mp member
    rcases catalog.sheltered entry old with top | parent
    · exact .inl top
    · refine .inr (List.mem_filter.mpr ⟨parent, ?_⟩)
      simp only [Bool.not_eq_true', Bool.eq_false_iff, ne_eq, List.isPrefixOf_iff_prefix] at kept ⊢
      exact fun within => kept (within.trans (List.dropLast_prefix _))

def ensureDirectory [DecidablePred Allowed] (catalog : Catalog Allowed α) (route : Route) :
    Except Refusal (Catalog Allowed α) :=
  match catalog.find? route with
  | some .directory => .ok catalog
  | some (.leaf _) => .error .notDirectory
  | none => catalog.add route .directory

/-- Make every directory on the way to a place, the place included. -/
def ensureDirectories [DecidablePred Allowed] (catalog : Catalog Allowed α) (route : Route) :
    Except Refusal (Catalog Allowed α) :=
  (passedPlaces route ++ [route]).foldlM ensureDirectory catalog

def addAll [DecidablePred Allowed] (catalog : Catalog Allowed α) :
    List (Route × Entry α) → Except Refusal (Catalog Allowed α)
  | [] => .ok catalog
  | (route, entry) :: rest => do
      let extended ← catalog.add route entry
      extended.addAll rest

/-- Move an entry with everything below it.  It comes to stand last in its new directory, and
takes the place of what stood there. -/
def move [DecidablePred Allowed] (catalog : Catalog Allowed α) (source target : Route) :
    Except Refusal (Catalog Allowed α) :=
  match catalog.find? source with
  | none => .error (catalog.absence source)
  | some _ =>
      let moved := catalog.entries.filterMap fun entry =>
        if source.isPrefixOf entry.1 then some (target ++ entry.1.drop source.length, entry.2)
        else none
      ((catalog.remove source).remove target).addAll moved

/-- The leaves with their routes, in the order of making. -/
def leaves (catalog : Catalog Allowed α) : List (Route × α) :=
  catalog.entries.filterMap fun entry =>
    match entry.2 with
    | .directory => none
    | .leaf content => some (entry.1, content)

end Catalog

end PageLinker
