import PageLinker.Proofs.Disk.Walking
import PageLinker.Proofs.Program.Storage

/-!
# Places on a disk

A path that leads to a directory settles where the entries of that directory are found: a name
behind the path leads to the entry of that name for every purpose, unless the entry is a link.
-/

namespace PageLinker

namespace Disk

variable {disk left : Disk} {path : Path} {place route : Route} {name text : String}
  {content : ByteArray} {number : Nat}

section Views

theorem find?_eq_none_iff : disk.find? route = none ↔ disk.contents.find? route = none := by
  rw [find?, Option.map_eq_none_iff]

theorem find?_eq_directory_iff :
    disk.find? route = some .directory ↔ disk.contents.find? route = some .directory := by
  rw [find?]
  match disk.contents.find? route with
  | none | some .directory | some (.leaf _) => simp [Entry.map]

theorem find?_eq_file_iff :
    disk.find? route = some (.leaf (.file content)) ↔
      ∃ number, disk.contents.find? route = some (.leaf (.file number)) ∧
        disk.bytes number = content := by
  rw [find?]
  match disk.contents.find? route with
  | none | some .directory => simp [Entry.map]
  | some (.leaf (.file _)) | some (.leaf (.link _)) => simp [Entry.map, leafOf]

theorem numberAt?_eq_some_iff :
    disk.numberAt? route = some number ↔
      disk.contents.find? route = some (.leaf (.file number)) := by
  rw [numberAt?]
  match disk.contents.find? route with
  | none | some .directory => simp
  | some (.leaf (.file _)) | some (.leaf (.link _)) => simp [Node.number?]

theorem sameFile_iff {other : Route} :
    disk.SameFile route other ↔ ∃ number,
      disk.contents.find? route = some (.leaf (.file number)) ∧
        disk.contents.find? other = some (.leaf (.file number)) := by
  simp only [SameFile, Option.mem_def, numberAt?_eq_some_iff]

end Views

theorem look_eq_ok_iff {purpose : Purpose} {entry : Entry Node} :
    disk.look purpose path = .ok (place, entry) ↔
      disk.locate purpose path = .ok place ∧ disk.contents.find? place = some entry := by
  rw [look, except_bind_eq_ok]
  constructor
  · rintro ⟨reached, located, found⟩
    cases stands : disk.contents.find? reached with
    | none => simp [stands] at found
    | some other =>
        obtain ⟨rfl, rfl⟩ : reached = place ∧ other = entry := by simpa [stands] using found
        exact ⟨located, stands⟩
  · rintro ⟨located, stands⟩
    exact ⟨place, located, by simp [stands]⟩

theorem openFile_eq_ok_iff :
    disk.openFile path = .ok number ↔
      ∃ route, disk.locate .content path = .ok route ∧
        disk.contents.find? route = some (.leaf (.file number)) := by
  simp only [openFile, except_bind_eq_ok, Prod.exists, look_eq_ok_iff]
  constructor
  · rintro ⟨route, entry, ⟨located, stands⟩, told⟩
    cases entry with
    | directory => cases told
    | leaf node =>
        cases node with
        | link target => cases told
        | file found =>
            cases told
            exact ⟨route, located, stands⟩
  · rintro ⟨route, located, stands⟩
    exact ⟨route, _, ⟨located, stands⟩, rfl⟩

theorem readBytes_eq_ok_iff :
    disk.readBytes path = .ok content ↔
      ∃ route, disk.locate .content path = .ok route ∧
        disk.find? route = some (.leaf (.file content)) := by
  simp only [readBytes, except_map_eq_ok, openFile_eq_ok_iff, find?_eq_file_iff]
  constructor
  · rintro ⟨number, ⟨route, located, stands⟩, holds⟩
    exact ⟨route, located, number, stands, holds⟩
  · rintro ⟨route, located, number, stands, holds⟩
    exact ⟨number, ⟨route, located, stands⟩, holds⟩

/-- Bytes are read by what is found at the end of a path. -/
theorem readBytes_of_locate (located : disk.locate .content path = .ok route) :
    disk.readBytes path =
      match disk.find? route with
      | some (.leaf (.file content)) => .ok content
      | some (.leaf (.link _)) => .error .tooManyLinks
      | some .directory => .error .isDirectory
      | none => .error .notFound := by
  rw [readBytes, openFile, look, located, except_ok_bind, find?]
  match disk.contents.find? route with
  | none | some .directory => rfl
  | some (.leaf (.file _)) | some (.leaf (.link _)) => rfl

theorem mem_listing : name ∈ disk.listing place ↔ name ∈ disk.contents.names place :=
  (disk.enumeration.enumerate_perm _ _).mem_iff

theorem listing_nodup (disk : Disk) (place : Route) : (disk.listing place).Nodup :=
  (disk.enumeration.enumerate_perm _ _).nodup_iff.mpr (disk.contents.names_nodup place)

/-- The path leads to a directory at the place. -/
structure LeadsTo (disk : Disk) (path : Path) (place : Route) : Prop where
  leads : Leads disk.contents greatestLinkCount (disk.start path) path.components place
  directory : disk.contents.find? place = some .directory

/-- Neither the place nor anything below it is a link. -/
def IsLinkFreeFrom (disk : Disk) (place : Route) : Prop :=
  ∀ below target, disk.contents.find? (place ++ below) ≠ some (.leaf (.link target))

theorem IsLinkFreeFrom.below (linkFree : disk.IsLinkFreeFrom place) (names : List String) :
    disk.IsLinkFreeFrom (place ++ names) := by
  intro below target
  rw [List.append_assoc]
  exact linkFree (names ++ below) target

/-- No link stands at the place to which the path leads, or below it. -/
def IsLinkFreeAt (disk : Disk) (path : Path) : Prop :=
  ∀ place, disk.locate .content path = .ok place → disk.IsLinkFreeFrom place

/-- The entry is a link. -/
def isLink : Entry Node → Bool
  | .leaf (.link _) => true
  | .directory | .leaf (.file _) => false

theorem isLinkFreeFrom_iff :
    disk.IsLinkFreeFrom place ↔
      ∀ entry ∈ disk.contents.entries, place <+: entry.1 → isLink entry.2 = false := by
  constructor
  · rintro linkFree ⟨route, entry⟩ listed ⟨below, rfl⟩
    have notTop := (disk.contents.allowed _ listed).1
    have found := (disk.contents.find?_eq_some_iff notTop).mpr listed
    cases entry with
    | directory => rfl
    | leaf node =>
        cases node with
        | file number => rfl
        | link target => exact absurd found (linkFree below target)
  · intro free below target found
    have notTop : place ++ below ≠ [] := by
      intro top
      simp [top] at found
    have listed := (disk.contents.find?_eq_some_iff notTop).mp found
    have noLink := free _ listed (List.prefix_append place below)
    simp [isLink] at noLink

instance (disk : Disk) (place : Route) : Decidable (disk.IsLinkFreeFrom place) :=
  decidable_of_iff _ isLinkFreeFrom_iff.symm

theorem isEntryStep_of_isComponent (component : IsComponent name) (notUp : name ≠ "..") :
    IsEntryStep name :=
  ⟨not_or.mpr ⟨component.2.1, component.1⟩, notUp⟩

/-- A name in the working directory leads to its entry. -/
theorem locate_here (component : IsComponent name) (notUp : name ≠ "..")
    (noLink : ∀ target,
      disk.contents.find? (disk.workingDirectory ++ [name]) ≠ some (.leaf (.link target)))
    (purpose : Purpose) :
    disk.locate purpose (Path.here.join name) = .ok (disk.workingDirectory ++ [name]) := by
  obtain ⟨anchor, components⟩ := Path.here.join_of_isComponent component
  rw [locate, start, anchor, components]
  exact walk_last (isEntryStep_of_isComponent component notUp) noLink

/-- What a directory lists has a proper name. -/
theorem isComponent_of_mem_listing (listed : name ∈ disk.listing place) :
    IsComponent name ∧ name ≠ ".." := by
  obtain ⟨entry, found⟩ := Option.isSome_iff_exists.mp
    (disk.contents.mem_names_iff.mp (mem_listing.mp listed))
  have member := Catalog.mem_of_find?_eq_some (by simp) found
  exact (disk.contents.allowed _ member).2 name (by simp)

/-- What stands anywhere stands in a directory. -/
theorem find?_directory_of_find? {entry : Entry Node}
    (stands : disk.contents.find? (place ++ [name]) = some entry) :
    disk.contents.find? place = some .directory := by
  have listed := (disk.contents.find?_eq_some_iff (by simp)).mp stands
  have above := disk.contents.sheltered _ listed
  rw [List.dropLast_concat] at above
  rcases above with rfl | parent
  · rfl
  · exact (disk.contents.find?_eq_some_iff (disk.contents.allowed _ parent).1).mpr parent

/-- What stands above a directory is a directory. -/
theorem find?_dropLast (directory : disk.contents.find? place = some .directory) :
    disk.contents.find? place.dropLast = some .directory := by
  rcases place.eq_nil_or_concat with rfl | ⟨above, name, rfl⟩
  · exact directory
  · rw [List.concat_eq_append] at directory ⊢
    rw [List.dropLast_concat]
    exact find?_directory_of_find? directory

section Walks

variable {links : Nat} {directory : Route} {steps : List String}

theorem find?_linkStart {step target : String}
    (isLink : disk.contents.find? (directory ++ [step]) = some (.leaf (.link target))) :
    disk.contents.find? (linkStart directory target) = some .directory := by
  rw [linkStart]
  split
  · exact find?_directory_of_find? isLink
  · rfl

/-- A slash at the end of a way asks for a directory. -/
theorem find?_of_walk_to_slash (start : disk.contents.find? directory = some .directory)
    (walked : walk disk.contents .content links directory (steps ++ [""]) = .ok place) :
    disk.contents.find? place = some .directory := by
  induction links using Nat.strongRecOn generalizing directory steps with
  | ind links ofFewer =>
      induction steps generalizing directory with
      | nil =>
          rw [List.nil_append, walk_idle (.inr rfl), walk_nil] at walked
          obtain rfl := Except.ok.inj walked
          exact start
      | cons step rest ih =>
          rw [List.cons_append] at walked
          by_cases idle : step = "." ∨ step = ""
          · rw [walk_idle idle] at walked
            exact ih start walked
          by_cases isUp : step = ".."
          · subst isUp
            rw [walk_up] at walked
            exact ih (find?_dropLast start) walked
          rcases walk_enter_cases ⟨idle, isUp⟩ walked with
            ⟨stands, further⟩ | ⟨target, fewer, isLink, rfl, goesOn⟩ | ⟨last, -⟩
          · exact ih stands further
          · rw [← List.append_assoc] at goesOn
            exact ofFewer fewer (Nat.lt_succ_self fewer) (find?_linkStart isLink) goesOn
          · simp at last

/-- A way to a file leads there for writing as well. -/
theorem walk_making_of_file
    (isFile : disk.contents.find? place = some (.leaf (.file number)))
    (walked : walk disk.contents .content links directory steps = .ok place) :
    walk disk.contents .making links directory steps = .ok place := by
  induction links using Nat.strongRecOn generalizing directory steps with
  | ind links ofFewer =>
      induction steps generalizing directory with
      | nil =>
          rw [walk_nil] at walked ⊢
          exact walked
      | cons step rest ih =>
          by_cases idle : step = "." ∨ step = ""
          · rw [walk_idle idle] at walked ⊢
            exact ih walked
          by_cases isUp : step = ".."
          · subst isUp
            rw [walk_up] at walked ⊢
            exact ih walked
          have enters : IsEntryStep step := ⟨idle, isUp⟩
          have cases := walk_enter_cases enters walked
          -- only a slash right behind the name could keep it from being made
          have mayEnd : rest ≠ [""] := by
            rintro rfl
            rcases cases with
              ⟨stands, further⟩ | ⟨target, fewer, isLink, rfl, goesOn⟩ | ⟨last, -⟩
            · rw [walk_idle (.inr rfl), walk_nil] at further
              obtain rfl := Except.ok.inj further
              cases stands.symm.trans isFile
            · have directory := find?_of_walk_to_slash (find?_linkStart isLink) goesOn
              cases directory.symm.trans isFile
            · cases last
          rw [walk_enter enters (fun both => mayEnd both.2)]
          rcases cases with
            ⟨stands, further⟩ | ⟨target, fewer, isLink, rfl, goesOn⟩ | ⟨rfl, rfl, -⟩
          · rw [stands]
            exact ih further
          · rw [isLink]
            simpa [walkOn] using ofFewer fewer (Nat.lt_succ_self fewer) goesOn
          · rw [isFile]
            rfl

end Walks

namespace LeadsTo

theorem of_locate (located : disk.locate .content path = .ok place)
    (directory : disk.contents.find? place = some .directory) : disk.LeadsTo path place :=
  ⟨.of_walk directory located, directory⟩

variable (leads : disk.LeadsTo path place)
include leads

theorem locate_content : disk.locate .content path = .ok place :=
  leads.leads.walk_content

theorem list_eq : disk.list path = .ok (disk.listing place) := by
  have looked := look_eq_ok_iff.mpr ⟨leads.locate_content, leads.directory⟩
  rw [list, looked]
  rfl

theorem join (component : IsComponent name) (notUp : name ≠ "..")
    (within : disk.contents.find? (place ++ [name]) = some .directory) :
    disk.LeadsTo (path.join name) (place ++ [name]) := by
  obtain ⟨anchor, components⟩ := path.join_of_isComponent component
  refine ⟨?_, within⟩
  rw [start, anchor, components]
  exact leads.leads.concat (isEntryStep_of_isComponent component notUp) within

/-- A name behind the path leads to the entry of that name. -/
theorem locate_join (component : IsComponent name) (notUp : name ≠ "..")
    (noLink : ∀ target, disk.contents.find? (place ++ [name]) ≠ some (.leaf (.link target)))
    (purpose : Purpose) : disk.locate purpose (path.join name) = .ok (place ++ [name]) := by
  obtain ⟨anchor, components⟩ := path.join_of_isComponent component
  rw [locate, start, anchor, components]
  refine leads.leads.walk_concat component.1 fun links => ?_
  exact walk_last (isEntryStep_of_isComponent component notUp) noLink

theorem locate_up (purpose : Purpose) :
    disk.locate purpose (path.join "..") = .ok place.dropLast := by
  obtain ⟨anchor, components⟩ := path.join_of_isComponent (show IsComponent ".." by decide)
  rw [locate, start, anchor, components]
  refine leads.leads.walk_concat (by decide) fun links => ?_
  rw [walk_up, walk_nil]

end LeadsTo

theorem list_eq_ok_iff {names : List String} :
    disk.list path = .ok names ↔ ∃ place, disk.LeadsTo path place ∧ disk.listing place = names := by
  constructor
  · intro listed
    obtain ⟨⟨place, entry⟩, looked, told⟩ := except_bind_eq_ok.mp listed
    obtain ⟨located, found⟩ := look_eq_ok_iff.mp looked
    cases entry with
    | leaf content => cases told
    | directory => exact ⟨place, .of_locate located found, Except.ok.inj told⟩
  · rintro ⟨place, leads, rfl⟩
    exact leads.list_eq

theorem writeText_eq_ok_iff (located : disk.locate .making path = .ok route) :
    disk.writeText path text = .ok left ↔ disk.store route text.toUTF8 = .ok left := by
  rw [writeText, writeBytes, located, except_ok_bind]

end Disk

end PageLinker
