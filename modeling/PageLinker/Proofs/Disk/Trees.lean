import Mathlib.Data.List.Nodup
import PageLinker.Proofs.Disk.Requests
import PageLinker.Proofs.Disk.Storing
import PageLinker.Proofs.Index.Sequence
import PageLinker.Proofs.Memory.Pruning
import PageLinker.Proofs.Tree.Collecting
import PageLinker.Proofs.Tree.Reading

/-!
# Trees on a disk

Where no links are, a build tree stands on a disk as it does in a memory: its groups are the
directories at the place of its root, and its pages are found by their names.  It stands there after
a page was written over and after an index has come up.
-/

namespace PageLinker

namespace BuildTree

/-- The page stands where these names lead from the root. -/
def PageAt (tree : BuildTree) (page : Path) (names : List String) : Prop :=
  ∃ group ∈ tree.groups, ∃ member ∈ group.members,
    page = group.path.join member.filename ∧ names = [group.name, member.filename]

/-- The index stands where these names lead from the root. -/
def IndexAt (tree : BuildTree) (indexFile : String) (file : IndexFile) (names : List String) :
    Prop :=
  file = tree.rootIndex indexFile ∧ names = [indexFile] ∨
    ∃ group ∈ tree.groups, file = group.index indexFile ∧ names = [group.name, indexFile]

variable {tree : BuildTree} {indexFile : String} {names : List String}

theorem exists_pageAt {page : Path} (listed : page ∈ tree.memberPaths) :
    ∃ names, tree.PageAt page names := by
  obtain ⟨group, inTree, inGroup⟩ := List.mem_flatMap.mp listed
  obtain ⟨member, inMembers, rfl⟩ := List.mem_map.mp inGroup
  exact ⟨_, group, inTree, member, inMembers, rfl, rfl⟩

theorem PageAt.mem_memberPaths {page : Path} (stands : tree.PageAt page names) :
    page ∈ tree.memberPaths := by
  obtain ⟨group, inTree, member, inGroup, rfl, -⟩ := stands
  exact List.mem_flatMap.mpr ⟨group, inTree, List.mem_map_of_mem inGroup⟩

theorem exists_indexAt {file : IndexFile} (listed : file ∈ tree.indexes indexFile) :
    ∃ names, tree.IndexAt indexFile file names := by
  rcases List.mem_cons.mp listed with rfl | inGroups
  · exact ⟨_, .inl ⟨rfl, rfl⟩⟩
  · obtain ⟨group, inTree, rfl⟩ := List.mem_map.mp inGroups
    exact ⟨_, .inr ⟨group, inTree, rfl, rfl⟩⟩

theorem IndexAt.mem_indexes {file : IndexFile} (stands : tree.IndexAt indexFile file names) :
    file ∈ tree.indexes indexFile := by
  rcases stands with ⟨rfl, -⟩ | ⟨group, inTree, rfl, -⟩
  · exact List.mem_cons_self
  · exact List.mem_cons_of_mem _ (List.mem_map_of_mem inTree)

theorem IndexAt.eq_concat {file : IndexFile} (stands : tree.IndexAt indexFile file names) :
    ∃ above, names = above ++ [indexFile] := by
  rcases stands with ⟨-, rfl⟩ | ⟨group, -, -, rfl⟩
  · exact ⟨[], rfl⟩
  · exact ⟨[group.name], rfl⟩

end BuildTree

namespace Disk

variable {disk left : Disk} {root page : Path} {place route : Route} {layout : Layout}
  {tree : BuildTree} {extension indexFile : String}

/-- The tree stands on the disk at the place to which its root leads, and no link is there. -/
structure Shows (disk : Disk) (place : Route) (layout : Layout) (tree : BuildTree) : Prop where
  leads : disk.LeadsTo tree.root place
  linkFree : disk.IsLinkFreeFrom place
  groupNames : tree.groupNames = (disk.listing place).filter fun name =>
    disk.contents.isDirectory (place ++ [name])
  group_path : ∀ group ∈ tree.groups, group.path = tree.root.join group.name
  collected : ∀ group ∈ tree.groups, Members.collect layout group.path.name
    (disk.listing (place ++ [group.name])) = .ok group.members

section Reading

theorem exists_leadsTo_of_read
    (found : ((Task.readTree root layout).run handle disk).result = .ok tree) :
    ∃ place, disk.LeadsTo root place := by
  obtain ⟨-, names, listed, -⟩ := (Task.readTree_eq_ok_iff handle_isStorage).mp found
  have yields := Program.yields_of_result listed
  obtain ⟨told, -⟩ := handle_listDir.mp (Program.yields_request.mp yields)
  obtain ⟨place, leads, -⟩ := list_eq_ok_iff.mp told
  exact ⟨place, leads⟩

theorem run_listDir_of_leadsTo (leads : disk.LeadsTo root place) :
    ((Task.listDir root).run handle disk).result = .ok (disk.listing place) := by
  rw [Task.listDir, Program.run_request, handle_listDir.mpr ⟨leads.list_eq, rfl⟩]

variable (leads : disk.LeadsTo root place) (linkFree : disk.IsLinkFreeFrom place)
include leads linkFree

theorem run_isDir_of_listed {name : String} (listed : name ∈ disk.listing place) :
    ((Task.isDir (root.join name)).run handle disk).result =
      .ok (disk.contents.isDirectory (place ++ [name])) := by
  obtain ⟨component, notUp⟩ := isComponent_of_mem_listing listed
  obtain ⟨entry, found⟩ := Option.isSome_iff_exists.mp
    (disk.contents.mem_names_iff.mp (mem_listing.mp listed))
  have located := leads.locate_join component notUp (linkFree [name]) .entry
  have told : disk.holdsDirectory (root.join name) =
      .ok (disk.contents.isDirectory (place ++ [name])) := by
    rw [holdsDirectory, look_eq_ok_iff.mpr ⟨located, found⟩, Catalog.isDirectory, found]
    rfl
  rw [Task.isDir, Program.run_request, handle_isDir.mpr ⟨told, rfl⟩]

theorem filter_tellsDirectory :
    (disk.listing place).filter (fun name => Handler.tellsDirectory handle disk (root.join name)) =
      (disk.listing place).filter fun name => disk.contents.isDirectory (place ++ [name]) := by
  refine List.filter_congr fun name listed => ?_
  rw [Handler.tellsDirectory, run_isDir_of_listed leads linkFree listed]

omit linkFree in
theorem isShown_iff {group : Group}
    (listed : group.name ∈ (disk.listing place).filter fun name =>
      disk.contents.isDirectory (place ++ [name])) :
    group.IsShown handle disk root layout ↔
      group.path = root.join group.name ∧
        Members.collect layout group.path.name (disk.listing (place ++ [group.name])) =
          .ok group.members := by
  obtain ⟨inListing, isDirectory⟩ := List.mem_filter.mp listed
  obtain ⟨component, notUp⟩ := isComponent_of_mem_listing inListing
  have within := disk.contents.isDirectory_eq_true_iff.mp isDirectory
  have answer := run_listDir_of_leadsTo (leads.join component notUp within)
  constructor
  · rintro ⟨path, filenames, found, collected⟩
    rw [path, answer] at found
    rw [Except.ok.inj found]
    exact ⟨path, collected⟩
  · rintro ⟨path, collected⟩
    exact ⟨path, _, path ▸ answer, collected⟩

/-- Below a place without links, a tree is read exactly when it stands there. -/
theorem readTree_eq_ok_iff :
    ((Task.readTree root layout).run handle disk).result = .ok tree ↔
      tree.root = root ∧ disk.Shows place layout tree := by
  have answer := run_listDir_of_leadsTo leads
  have groups := filter_tellsDirectory leads linkFree
  have isListed {group : Group} (inTree : group ∈ tree.groups)
      (names : tree.groupNames = (disk.listing place).filter fun name =>
        disk.contents.isDirectory (place ++ [name])) :
      group.name ∈ (disk.listing place).filter fun name =>
        disk.contents.isDirectory (place ++ [name]) := by
    rw [← names]
    exact List.mem_map_of_mem inTree
  rw [Task.readTree_eq_ok_iff handle_isStorage]
  constructor
  · rintro ⟨rfl, names, listed, -, groupNames, shown⟩
    obtain rfl : disk.listing place = names := Except.ok.inj (answer.symm.trans listed)
    rw [groups] at groupNames
    have each := fun group inTree =>
      (isShown_iff leads (isListed inTree groupNames)).mp (shown group inTree)
    exact ⟨rfl, leads, linkFree, groupNames, fun group inTree => (each group inTree).1,
      fun group inTree => (each group inTree).2⟩
  · rintro ⟨rfl, -, -, groupNames, path, collected⟩
    refine ⟨rfl, _, answer, fun name listed => ?_, groups ▸ groupNames, fun group inTree => ?_⟩
    · exact ⟨_, run_isDir_of_listed leads linkFree listed⟩
    · exact (isShown_iff leads (isListed inTree groupNames)).mpr
        ⟨path group inTree, collected group inTree⟩

end Reading

namespace Shows

section Places

variable (shown : disk.Shows place layout tree)
include shown

theorem group_isDirectory {group : Group} (listed : group ∈ tree.groups) :
    group.name ∈ disk.listing place ∧
      disk.contents.find? (place ++ [group.name]) = some .directory := by
  have named : group.name ∈ tree.groupNames := List.mem_map_of_mem listed
  rw [shown.groupNames, List.mem_filter] at named
  exact ⟨named.1, disk.contents.isDirectory_eq_true_iff.mp named.2⟩

theorem leadsTo_group {group : Group} (listed : group ∈ tree.groups) :
    disk.LeadsTo group.path (place ++ [group.name]) := by
  obtain ⟨inListing, within⟩ := shown.group_isDirectory listed
  obtain ⟨component, notUp⟩ := isComponent_of_mem_listing inListing
  rw [shown.group_path group listed]
  exact shown.leads.join component notUp within

theorem member_listed {group : Group} (listed : group ∈ tree.groups) {member : Member}
    (inGroup : member ∈ group.members) :
    member.filename ∈ disk.listing (place ++ [group.name]) ∧
      layout.isIndex member.filename = false := by
  obtain ⟨kept, sublist, apart, files⟩ := Members.collect_files (shown.collected group listed)
  have inKept := files.mem_iff.mp (List.mem_map_of_mem inGroup)
  exact ⟨sublist.subset inKept, apart _ inKept⟩

variable {names : List String}

theorem locate_page (stands : tree.PageAt page names) (purpose : Purpose) :
    disk.locate purpose page = .ok (place ++ names) := by
  obtain ⟨group, listed, member, inGroup, rfl, rfl⟩ := stands
  obtain ⟨component, notUp⟩ := isComponent_of_mem_listing (shown.member_listed listed inGroup).1
  have noLink := (shown.linkFree.below [group.name]) [member.filename]
  rw [(shown.leadsTo_group listed).locate_join component notUp noLink, List.append_assoc]
  rfl

theorem locate_index (component : IsComponent indexFile) (notUp : indexFile ≠ "..")
    {file : IndexFile} (stands : tree.IndexAt indexFile file names) (purpose : Purpose) :
    disk.locate purpose file.path = .ok (place ++ names) := by
  rcases stands with ⟨rfl, rfl⟩ | ⟨group, listed, rfl, rfl⟩
  · exact shown.leads.locate_join component notUp (shown.linkFree [indexFile]) purpose
  · have noLink := (shown.linkFree.below [group.name]) [indexFile]
    rw [Group.index, (shown.leadsTo_group listed).locate_join component notUp noLink,
      List.append_assoc]
    rfl

/-- No page of the tree stands where an index does. -/
theorem page_ne_index (indexSet : layout.indexFile = some indexFile)
    (stands : tree.PageAt page names) {file : IndexFile} :
    ¬ tree.IndexAt indexFile file names := by
  obtain ⟨group, listed, member, inGroup, rfl, rfl⟩ := stands
  have apart := (shown.member_listed listed inGroup).2
  rintro (⟨-, same⟩ | ⟨other, -, -, same⟩)
  · simp at same
  · have name : member.filename = indexFile := by simpa using (List.cons.inj same).2
    simp [Layout.isIndex, indexSet, name] at apart

end Places

section Writing

variable {names : List String} {content : ByteArray}
  (shown : disk.Shows place ⟨some extension, some indexFile⟩ tree)
  (stored : disk.store (place ++ names) content = .ok left)
  (stable : disk.enumeration.IsStable)
  (harmless : (disk.contents.find? (place ++ names)).isSome ∨ ∃ above, names = above ++ [indexFile])
include shown stored stable harmless

/-- A tree stands where it stood after a page was written over or an index was written. -/
theorem store : left.Shows place ⟨some extension, some indexFile⟩ tree where
  leads := leadsTo_store stored shown.leads
  linkFree := isLinkFreeFrom_store stored shown.linkFree
  groupNames := by
    rw [shown.groupNames]
    simp only [isDirectory_store stored]
    refine (filter_listing_store stored stable fun name isDirectory same => ?_).symm
    -- A file stands where something was stored, so it makes no group.
    obtain ⟨number, isFile, -⟩ := exists_number_store stored
    rw [same, ← isDirectory_store stored, Catalog.isDirectory_eq_true_iff, isFile] at isDirectory
    cases isDirectory
  group_path := shown.group_path
  collected := by
    intro group listed
    rw [← shown.collected group listed]
    rcases harmless with present | ⟨above, rfl⟩
    · rw [listing_store_of_present stored present]
    · -- The new name can only be that of the index, which is no page.
      have noPages (filename : String) (left : decide (place ++ [group.name] ++ [filename] ≠
          place ++ (above ++ [indexFile])) = false) :
          Members.page? ⟨some extension, some indexFile⟩ filename = none := by
        have same := of_decide_eq_false left
        rw [not_not, ← List.append_assoc] at same
        obtain ⟨-, last⟩ := List.append_inj' same rfl
        obtain rfl : filename = indexFile := (List.cons.inj last).1
        exact Members.page?_of_isIndex (by simp [Layout.isIndex])
      have leavingOut (filenames : List String) :
          Members.collect ⟨some extension, some indexFile⟩ group.path.name (filenames.filter
            fun filename => place ++ [group.name] ++ [filename] ≠
              place ++ (above ++ [indexFile])) =
            Members.collect ⟨some extension, some indexFile⟩ group.path.name filenames :=
        Members.collect_leaving_out rfl fun filename _ => noPages filename
      rw [← leavingOut, ← leavingOut (disk.listing _),
        filter_listing_store stored stable fun name passes => of_decide_eq_true passes]

end Writing

end Shows

end Disk

end PageLinker
