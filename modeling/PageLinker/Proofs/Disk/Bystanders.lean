import PageLinker.Proofs.Disk.Trees
import PageLinker.Proofs.Program.Comparing

/-!
# A file that one disk has and another has not

Two disks without links have grown out of a third one: each has everything that stood there, listed
in the same order, and besides it only files that are no pages.  They differ in a single file that
has no other name.  What stands beside this file is read and written alike, and nothing that a task
does to both disks ends the likeness.
-/

namespace PageLinker

namespace Workspace

/-- The request leaves something behind: a text or a record. -/
def Request.isSeen : Request → Bool
  | .writeText _ _ | .note _ => true
  | .listDir _ | .isDir _ | .readText _ => false

theorem Request.not_written_of_unseen {request : Request} (unseen : request.isSeen = false) :
    request.written? = none := by
  cases request with
  | writeText path content => cases unseen
  | listDir path | isDir path | readText path | note record => rfl

end Workspace

namespace Disk

/-- A name in a directory makes a place. -/
theorem isPlace_concat {disk : Disk} {place : Route} {name : String}
    (directory : disk.contents.find? place = some .directory) (component : IsComponent name)
    (notUp : name ≠ "..") : IsPlace (place ++ [name]) := by
  intro step listed
  rcases List.mem_append.mp listed with above | last
  · have notTop : place ≠ [] := by
      rintro rfl
      cases above
    have stands := (disk.contents.find?_eq_some_iff notTop).mp directory
    exact (disk.contents.allowed _ stands).2 step above
  · rw [List.mem_singleton.mp last]
    exact ⟨component, notUp⟩

/-- A file of a disk. -/
structure NewFile where
  directory : Route
  name : String
  content : ByteArray

def NewFile.place (file : NewFile) : Route :=
  file.directory ++ [file.name]

theorem NewFile.ne_place {file : NewFile} {name : String} (differ : name ≠ file.name)
    (directory : Route) : directory ++ [name] ≠ file.place := by
  intro same
  obtain ⟨-, last⟩ := List.append_inj' same rfl
  exact differ (List.cons.inj last).1

/-- Everything on the first disk stands on the second one too, in the same order.  What else stands
there are files, and none of them is a page. -/
structure Grown (base : Disk) (layout : Layout) (disk : Disk) : Prop where
  workingDirectory : disk.workingDirectory = base.workingDirectory
  stable : disk.enumeration.IsStable
  kept : ∀ route entry, base.contents.find? route = some entry →
    disk.contents.find? route = some entry
  added : ∀ place name entry, base.contents.find? (place ++ [name]) = none →
    disk.contents.find? (place ++ [name]) = some entry →
      (∃ number, entry = .leaf (.file number)) ∧ Members.page? layout name = none
  listing : ∀ place, (disk.listing place).filter (fun name =>
    (base.contents.find? (place ++ [name])).isSome) = base.listing place

namespace Grown

variable {base disk left : Disk} {layout : Layout} {path : Path} {place : Route} {name : String}

theorem refl (stable : base.enumeration.IsStable) : base.Grown layout base where
  workingDirectory := rfl
  stable := stable
  kept _ _ found := found
  added _ _ _ absent found := by
    rw [absent] at found
    cases found
  listing place := List.filter_eq_self.mpr fun _ listed =>
    base.contents.mem_names_iff.mp (mem_listing.mp listed)

variable (grown : base.Grown layout disk)
include grown

theorem isDirectory_eq (route : Route) :
    disk.contents.isDirectory route = base.contents.isDirectory route := by
  cases found : base.contents.find? route with
  | some entry => rw [Catalog.isDirectory, Catalog.isDirectory, found, grown.kept route entry found]
  | none =>
      rw [Catalog.isDirectory, Catalog.isDirectory, found]
      rcases route.eq_nil_or_concat with rfl | ⟨place, name, rfl⟩
      · cases found
      · rw [List.concat_eq_append] at found ⊢
        cases stands : disk.contents.find? (place ++ [name]) with
        | none => rfl
        | some entry =>
            obtain ⟨⟨number, rfl⟩, -⟩ := grown.added place name entry found stands
            rfl

theorem isLinkFree (linkFree : base.IsLinkFreeFrom []) : disk.IsLinkFreeFrom [] := by
  intro route target stands
  rw [List.nil_append] at stands
  cases found : base.contents.find? route with
  | some entry =>
      rw [grown.kept route entry found] at stands
      exact linkFree route target (found.trans stands)
  | none =>
      rcases route.eq_nil_or_concat with rfl | ⟨place, name, rfl⟩
      · cases found
      · rw [List.concat_eq_append] at found stands
        obtain ⟨⟨number, isFile⟩, -⟩ := grown.added place name _ found stands
        cases isFile

theorem leadsTo (leads : base.LeadsTo path place) : disk.LeadsTo path place := by
  refine ⟨?_, grown.kept _ _ leads.directory⟩
  have start : disk.start path = base.start path := by
    rw [Disk.start, Disk.start, grown.workingDirectory]
  rw [start]
  exact leads.leads.mono grown.kept

/-- A directory lists the same directories as it did. -/
theorem filter_isDirectory (place : Route) :
    (disk.listing place).filter (fun name => disk.contents.isDirectory (place ++ [name])) =
      (base.listing place).filter fun name => base.contents.isDirectory (place ++ [name]) := by
  rw [← grown.listing place, List.filter_filter]
  refine List.filter_congr fun name _ => ?_
  rw [grown.isDirectory_eq]
  cases found : base.contents.find? (place ++ [name]) <;> simp [Catalog.isDirectory, found]

/-- A directory lists the same pages as it did. -/
theorem collect_eq {extension : String} (extensionSet : layout.extension = some extension)
    (group : String) (place : Route) :
    Members.collect layout group (disk.listing place) =
      Members.collect layout group (base.listing place) := by
  rw [← grown.listing place]
  refine (Members.collect_leaving_out extensionSet fun name listed isNew => ?_).symm
  obtain ⟨entry, found⟩ := Option.isSome_iff_exists.mp
    (disk.contents.mem_names_iff.mp (mem_listing.mp listed))
  rw [Option.isSome_eq_false_iff, Option.isNone_iff_eq_none] at isNew
  exact (grown.added place name entry isNew found).2

/-- A disk grows when a file is stored that was there before or is no page. -/
theorem store {content : ByteArray} (stored : disk.store (place ++ [name]) content = .ok left)
    (harmless : (base.contents.find? (place ++ [name])).isSome ∨
      Members.page? layout name = none) : base.Grown layout left where
  workingDirectory := (workingDirectory_store stored).trans grown.workingDirectory
  stable := enumeration_store stored ▸ grown.stable
  kept route entry found := contents_find?_store stored (grown.kept route entry found)
  added := by
    intro above last entry absent found
    by_cases here : above ++ [last] = place ++ [name]
    · obtain ⟨rfl, same⟩ := List.append_inj' here rfl
      obtain rfl : last = name := (List.cons.inj same).1
      obtain ⟨number, isFile, -⟩ := exists_number_store stored
      refine ⟨⟨number, Option.some.inj (found.symm.trans isFile)⟩, harmless.resolve_left ?_⟩
      simp [absent]
    · rw [contents_find?_store_of_ne stored here] at found
      exact grown.added above last entry absent found
  listing := by
    intro directory
    rw [← grown.listing directory]
    cases present : disk.contents.find? (place ++ [name]) with
    | some entry => rw [listing_store_of_present stored (by simp [present])]
    | none =>
        refine filter_listing_store stored grown.stable fun other inBase same => ?_
        obtain ⟨entry, found⟩ := Option.isSome_iff_exists.mp inBase
        rw [same] at found
        cases present.symm.trans (grown.kept _ entry found)

end Grown

/-- Two disks that have grown out of a third one, without links, differ in a file that the second
one has, under no other name. -/
structure DifferBy (base : Disk) (layout : Layout) (file : NewFile) (disk other : Disk) : Prop where
  first : base.Grown layout disk
  second : base.Grown layout other
  baseLinkFree : base.IsLinkFreeFrom []
  absent : disk.find? file.place = none
  present : other.find? file.place = some (.leaf (.file file.content))
  alone : ∀ route, other.SameFile file.place route → route = file.place
  elsewhere : ∀ route, route ≠ file.place → other.find? route = disk.find? route
  sameFiles : ∀ route second, route ≠ file.place → second ≠ file.place →
    (other.SameFile route second ↔ disk.SameFile route second)

/-- The path leads to an entry of a directory that is not the file.  It is there from the beginning
or is no page. -/
def IsBeside (base : Disk) (layout : Layout) (file : NewFile) (path : Path) : Prop :=
  ∃ directory place name, path = directory.join name ∧ base.LeadsTo directory place ∧
    IsComponent name ∧ name ≠ ".." ∧ place ++ [name] ≠ file.place ∧
    ((base.contents.find? (place ++ [name])).isSome ∨ Members.page? layout name = none)

theorem not_sameFile_of_absent {disk : Disk} {route : Route} (absent : disk.find? route = none)
    (other : Route) : ¬ disk.SameFile route other := by
  intro same
  obtain ⟨number, found, -⟩ := sameFile_iff.mp same
  rw [find?_eq_none_iff.mp absent] at found
  cases found

theorem SameFile.symm {disk : Disk} {route other : Route} (same : disk.SameFile route other) :
    disk.SameFile other route := by
  obtain ⟨number, first, second⟩ := same
  exact ⟨number, second, first⟩

/-- A disk differs from the one before by the file that was stored. -/
theorem DifferBy.of_store {disk left : Disk} {layout : Layout} {file : NewFile}
    (linkFree : disk.IsLinkFreeFrom []) (stable : disk.enumeration.IsStable)
    (absent : disk.find? file.place = none) (noPage : Members.page? layout file.name = none)
    (stored : disk.store file.place file.content = .ok left) :
    disk.DifferBy layout file disk left where
  first := .refl stable
  second := (Grown.refl stable).store stored (.inr noPage)
  baseLinkFree := linkFree
  absent := absent
  present := find?_store stored (sameFile_store_self stored)
  alone route same := by
    rcases (sameFile_store stored).mp same with before | ⟨-, here⟩
    · exact absurd before (not_sameFile_of_absent absent route)
    · exact here
  elsewhere route apart := find?_store_of_apart stored fun same => by
    rcases (sameFile_store stored).mp same with before | ⟨-, here⟩
    · exact not_sameFile_of_absent absent route before
    · exact apart here
  sameFiles route second apart _ := by
    rw [sameFile_store stored]
    exact or_iff_left fun both => apart both.1

namespace DifferBy

variable {base disk other left otherLeft : Disk} {layout : Layout} {file : NewFile} {path : Path}
  {place : Route} (differ : base.DifferBy layout file disk other)
include differ

theorem linkFreeFrom (place : Route) :
    disk.IsLinkFreeFrom place ∧ other.IsLinkFreeFrom place :=
  ⟨(differ.first.isLinkFree differ.baseLinkFree).below place,
    (differ.second.isLinkFree differ.baseLinkFree).below place⟩

theorem leadsTo (leads : base.LeadsTo path place) :
    disk.LeadsTo path place ∧ other.LeadsTo path place :=
  ⟨differ.first.leadsTo leads, differ.second.leadsTo leads⟩

/-- What was there from the beginning is not the file. -/
theorem ne_place {route : Route} (stands : (base.contents.find? route).isSome) :
    route ≠ file.place := by
  rintro rfl
  obtain ⟨entry, found⟩ := Option.isSome_iff_exists.mp stands
  cases (find?_eq_none_iff.mp differ.absent).symm.trans (differ.first.kept _ _ found)

/-- Files beside the new one are given the same content on both disks. -/
theorem store {name : String} {content : ByteArray} (apart : place ++ [name] ≠ file.place)
    (harmless : (base.contents.find? (place ++ [name])).isSome ∨
      Members.page? layout name = none)
    (stored : disk.store (place ++ [name]) content = .ok left)
    (alsoStored : other.store (place ++ [name]) content = .ok otherLeft) :
    base.DifferBy layout file left otherLeft := by
  have same {route second : Route} : left.SameFile route second ↔ disk.SameFile route second ∨
      route = place ++ [name] ∧ second = place ++ [name] := sameFile_store stored
  have sameOther {route second : Route} : otherLeft.SameFile route second ↔
      other.SameFile route second ∨ route = place ++ [name] ∧ second = place ++ [name] :=
    sameFile_store alsoStored
  have notNew : ¬ other.SameFile (place ++ [name]) file.place := fun shared =>
    apart (differ.alone _ shared.symm)
  have notNewLeft : ¬ otherLeft.SameFile (place ++ [name]) file.place := fun shared =>
    (sameOther.mp shared).elim notNew fun both => apart both.2.symm
  have notNewFirst : ¬ left.SameFile (place ++ [name]) file.place := fun shared =>
    (same.mp shared).elim (fun before => not_sameFile_of_absent differ.absent _ before.symm)
      fun both => apart both.2.symm
  have sameFiles : ∀ route second, route ≠ file.place → second ≠ file.place →
      (otherLeft.SameFile route second ↔ left.SameFile route second) := by
    intro route second routeApart secondApart
    rw [same, sameOther, differ.sameFiles route second routeApart secondApart]
  refine ⟨differ.first.store stored harmless, differ.second.store alsoStored harmless,
    differ.baseLinkFree, ?_, ?_, fun route shared => ?_, fun route routeApart => ?_, sameFiles⟩
  · rw [find?_store_of_apart stored notNewFirst]
    exact differ.absent
  · rw [find?_store_of_apart alsoStored notNewLeft]
    exact differ.present
  · rcases sameOther.mp shared with before | ⟨here, -⟩
    · exact differ.alone route before
    · exact absurd here.symm apart
  · by_cases shared : left.SameFile (place ++ [name]) route
    · rw [find?_store stored shared,
        find?_store alsoStored ((sameFiles _ _ apart routeApart).mpr shared)]
    · rw [find?_store_of_apart stored shared, find?_store_of_apart alsoStored fun otherShared =>
        shared ((sameFiles _ _ apart routeApart).mp otherShared)]
      exact differ.elsewhere route routeApart

section Beside

variable (beside : base.IsBeside layout file path)
include beside

theorem readText_eq : other.readText path = disk.readText path := by
  obtain ⟨directory, place, name, rfl, leads, component, notUp, apart, -⟩ := beside
  obtain ⟨leadsFirst, leadsSecond⟩ := differ.leadsTo leads
  obtain ⟨linkFreeFirst, linkFreeSecond⟩ := differ.linkFreeFrom place
  have first := leadsFirst.locate_join component notUp (linkFreeFirst [name]) .content
  have second := leadsSecond.locate_join component notUp (linkFreeSecond [name]) .content
  rw [readText, readText, readBytes_of_locate first, readBytes_of_locate second,
    differ.elsewhere _ apart]

/-- A file beside the new one is written to both disks, or to neither. -/
theorem writeBytes_cases (content : ByteArray) :
    (∃ refusal, disk.writeBytes path content = .error refusal ∧
        other.writeBytes path content = .error refusal) ∨
      ∃ left otherLeft, disk.writeBytes path content = .ok left ∧
        other.writeBytes path content = .ok otherLeft ∧
        base.DifferBy layout file left otherLeft := by
  obtain ⟨directory, place, name, rfl, leads, component, notUp, apart, harmless⟩ := beside
  obtain ⟨leadsFirst, leadsSecond⟩ := differ.leadsTo leads
  obtain ⟨linkFreeFirst, linkFreeSecond⟩ := differ.linkFreeFrom place
  have first := leadsFirst.locate_join component notUp (linkFreeFirst [name]) .making
  have second := leadsSecond.locate_join component notUp (linkFreeSecond [name]) .making
  rw [writeBytes, writeBytes, first, second, except_ok_bind, except_ok_bind]
  have isPlace := isPlace_concat leads.directory component notUp
  have sameKind {disk : Disk} (grown : base.Grown layout disk) :
      disk.contents.find? (place ++ [name]) = some .directory ↔
        base.contents.find? (place ++ [name]) = some .directory := by
    rw [← Catalog.isDirectory_eq_true_iff, grown.isDirectory_eq, Catalog.isDirectory_eq_true_iff]
  by_cases blocked : base.contents.find? (place ++ [name]) = some .directory
  · refine .inl ⟨.isDirectory, ?_⟩
    rw [Disk.store, Disk.store, (sameKind differ.first).mpr blocked,
      (sameKind differ.second).mpr blocked]
    exact ⟨rfl, rfl⟩
  · have parent {disk : Disk} (leads : disk.LeadsTo directory place) :
        disk.contents.isDirectory (place ++ [name]).dropLast = true := by
      rw [List.dropLast_concat]
      exact (Catalog.isDirectory_eq_true_iff _).mpr leads.directory
    obtain ⟨left, stored⟩ := exists_store isPlace (parent leadsFirst)
      (fun found => blocked ((sameKind differ.first).mp found)) (linkFreeFirst [name]) content
    obtain ⟨otherLeft, alsoStored⟩ := exists_store isPlace (parent leadsSecond)
      (fun found => blocked ((sameKind differ.second).mp found)) (linkFreeSecond [name]) content
    rw [stored, alsoStored]
    exact .inr ⟨left, otherLeft, rfl, rfl, differ.store apart harmless stored alsoStored⟩

end Beside

end DifferBy

/-- Runs are compared that start from disks which differ by the file. -/
def comparison (base : Disk) (layout : Layout) (file : NewFile) :
    Comparison Workspace.Request Disk where
  handle := handle
  seen := (·.isSeen)
  related := base.DifferBy layout file
  unseen_keeps := fun unseen granted =>
    handle_isStorage.unchanged (Workspace.Request.not_written_of_unseen unseen) granted

end Disk

end PageLinker
