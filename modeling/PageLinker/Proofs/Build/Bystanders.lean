import PageLinker.Build
import PageLinker.Proofs.Disk.Bystanders

/-!
# Files that are none of a build's business

A new file that is neither a page nor an index makes no difference to a build or to the writing of
indexes, even if it stands in the root or in a group of the tree.  It is listed there, but it is no
directory and no page, and it leaves the others in their order.  This holds in every outcome.
-/

namespace PageLinker

namespace Disk

open Workspace (Request)

/-- The group stands on the disk, and its pages stand beside the file. -/
def HasGroupBeside (base : Disk) (layout : Layout) (file : NewFile) (group : Group) : Prop :=
  (∃ place, base.LeadsTo group.path place) ∧
    ∀ page ∈ group.memberPaths, base.IsBeside layout file page

variable {base : Disk} {layout : Layout} {file : NewFile} {root : Path} {place : Route}

section Requests

theorem readText_alike {path : Path} (beside : base.IsBeside layout file path) :
    (base.comparison layout file).Alike (Task.readText path) fun _ => True := by
  refine .of_unseen ⟨rfl, fun _ => trivial⟩ fun disk other differ => ⟨?_, fun _ _ => trivial⟩
  have same := DifferBy.readText_eq differ beside
  have answers (disk : Disk) :
      ((Task.readText path).run handle disk).result = disk.readText path := by
    rw [Task.readText, Program.run_request, handle]
    cases disk.readText path <;> rfl
  exact (answers other).trans (same.trans (answers disk).symm)

theorem writeText_alike {path : Path} (beside : base.IsBeside layout file path) (text : String) :
    (base.comparison layout file).Alike (Task.writeText path text) fun _ => True := by
  refine .request fun disk other differ => ?_
  rcases DifferBy.writeBytes_cases differ beside text.toUTF8 with
    ⟨refusal, refused, alsoRefused⟩ | ⟨left, otherLeft, granted, alsoGranted, stays⟩
  · refine .inl ⟨.refused refusal path, ?_, ?_⟩
    · exact Failure.about_eq_error.mpr ⟨refusal, congrArg _ refused, rfl⟩
    · exact Failure.about_eq_error.mpr ⟨refusal, congrArg _ alsoRefused, rfl⟩
  · exact .inr ⟨(), left, otherLeft, handle_writeText.mpr granted,
      handle_writeText.mpr alsoGranted, stays, trivial⟩

theorem note_alike (origin : Origin) (level : Level) (message : String) :
    (base.comparison layout file).Alike (Task.note origin level message) fun _ => True :=
  .request fun disk other differ => .inr ⟨(), disk, other, rfl, rfl, differ, trivial⟩

end Requests

section Reading

theorem run_listGroups_result {disk : Disk} (leads : disk.LeadsTo root place)
    (linkFree : disk.IsLinkFreeFrom place) :
    ((Task.listGroups root).run handle disk).result =
      .ok ((disk.listing place).filter fun name =>
        disk.contents.isDirectory (place ++ [name])) := by
  have groups : Task.listGroups root = Task.listDir root >>= Task.keepDirectories root := rfl
  have listing := (Task.listDir_onlySurveys root).isSilent
  rw [groups, listing.result_bind handle_isStorage, run_listDir_of_leadsTo leads, except_ok_bind,
    ← filter_tellsDirectory leads linkFree]
  refine (Task.keepDirectories_eq_ok_iff handle_isStorage).mpr ⟨fun name listed => ?_, rfl⟩
  exact ⟨_, run_isDir_of_listed leads linkFree listed⟩

/-- A group that is found is a directory at the place of the root, on both disks. -/
theorem listGroups_alike (leads : base.LeadsTo root place) :
    (base.comparison layout file).Alike (Task.listGroups root) fun names => ∀ name ∈ names,
      base.LeadsTo (root.join name) (place ++ [name]) := by
  have keeping (names : List String) :
      (Task.keepDirectories root names).Within fun request => request.isSeen = false := by
    induction names with
    | nil => trivial
    | cons name rest ih => exact .bind (.request rfl) fun _ => ih.bind fun _ => trivial
  refine .of_unseen (.bind (.request rfl) keeping) fun disk other differ => ?_
  obtain ⟨leadsFirst, leadsSecond⟩ := DifferBy.leadsTo differ leads
  obtain ⟨linkFreeFirst, linkFreeSecond⟩ := DifferBy.linkFreeFrom differ place
  have first := run_listGroups_result leadsFirst linkFreeFirst
  have second := run_listGroups_result leadsSecond linkFreeSecond
  -- Both disks list the directories that were there from the beginning.
  rw [(DifferBy.first differ).filter_isDirectory] at first
  rw [(DifferBy.second differ).filter_isDirectory] at second
  refine ⟨second.trans first.symm, fun names found name listed => ?_⟩
  obtain rfl := Except.ok.inj (first.symm.trans found)
  obtain ⟨inListing, isDirectory⟩ := List.mem_filter.mp listed
  obtain ⟨component, notUp⟩ := isComponent_of_mem_listing inListing
  exact leads.join component notUp ((Catalog.isDirectory_eq_true_iff _).mp isDirectory)

variable {extension : String} (extensionSet : layout.extension = some extension)
include extensionSet

theorem memberFiles_alike {directory : Path} (leads : base.LeadsTo directory place) :
    (base.comparison layout file).Alike (Task.memberFiles directory layout) fun members =>
      ∀ member ∈ members, base.IsBeside layout file (directory.join member.filename) := by
  refine .of_unseen (.bind (.request rfl) fun _ => .ofExcept _) fun disk other differ => ?_
  obtain ⟨leadsFirst, leadsSecond⟩ := DifferBy.leadsTo differ leads
  have answer {disk : Disk} (leads : disk.LeadsTo directory place)
      (grown : base.Grown layout disk) :
      ((Task.memberFiles directory layout).run handle disk).result =
        Members.collect layout directory.name (base.listing place) := by
    have listing := (Task.listDir_onlySurveys directory).isSilent
    rw [← grown.collect_eq extensionSet, Task.memberFiles, listing.result_bind handle_isStorage,
      run_listDir_of_leadsTo leads, except_ok_bind, Program.run_ofExcept]
  have first := answer leadsFirst (DifferBy.first differ)
  refine ⟨(answer leadsSecond (DifferBy.second differ)).trans first.symm,
    fun members found member listed => ?_⟩
  have collected := first.symm.trans found
  obtain ⟨kept, sublist, -, files⟩ := Members.collect_files collected
  have inListing := sublist.subset (files.mem_iff.mp (List.mem_map_of_mem listed))
  obtain ⟨component, notUp⟩ := isComponent_of_mem_listing inListing
  have stands := base.contents.mem_names_iff.mp (mem_listing.mp inListing)
  exact ⟨directory, place, member.filename, rfl, leads, component, notUp,
    DifferBy.ne_place differ stands, .inl stands⟩

theorem readGroups_alike {names : List String}
    (leads : ∀ name ∈ names, ∃ place, base.LeadsTo (root.join name) place) :
    (base.comparison layout file).Alike (Task.readGroups root layout names) fun groups =>
      ∀ group ∈ groups, base.HasGroupBeside layout file group := by
  induction names with
  | nil => exact .done (by simp)
  | cons name rest ih =>
      obtain ⟨⟨place, here⟩, others⟩ := List.forall_mem_cons.mp leads
      refine (memberFiles_alike extensionSet here).bind fun members beside => ?_
      refine (ih others).bind fun later standing => .done ?_
      refine List.forall_mem_cons.mpr ⟨⟨⟨place, here⟩, fun page listed => ?_⟩, standing⟩
      obtain ⟨member, inGroup, rfl⟩ := List.mem_map.mp listed
      exact beside member inGroup

theorem readTree_alike (leads : base.LeadsTo root place) :
    (base.comparison layout file).Alike (Task.readTree root layout) fun tree =>
      tree.root = root ∧ ∀ group ∈ tree.groups, base.HasGroupBeside layout file group := by
  refine (listGroups_alike leads).bind fun names standing => ?_
  refine (readGroups_alike extensionSet fun name listed =>
    ⟨_, standing name listed⟩).bind fun groups beside => .done ⟨rfl, beside⟩

end Reading

theorem completePages_alike {pages : List Path}
    (beside : ∀ page ∈ pages, base.IsBeside layout file page) :
    (base.comparison layout file).Alike (Task.completePages pages) fun _ => True := by
  induction pages with
  | nil => exact .done trivial
  | cons page rest ih =>
      obtain ⟨here, others⟩ := List.forall_mem_cons.mp beside
      have first : (base.comparison layout file).Alike (Task.completePage page) fun _ => True := by
        refine (readText_alike here).bind fun text _ => ?_
        split
        · exact .done trivial
        · exact (writeText_alike here _).bind fun _ _ => .done trivial
      exact first.bind fun _ _ => (ih others).bind fun _ _ => .done trivial

section Indexes

variable {extension indexFile : String} (component : IsComponent indexFile)
  (notUp : indexFile ≠ "..") (differs : indexFile ≠ file.name)

omit component notUp differs in
theorem writeIndex_alike {index : IndexFile} (beside : base.IsBeside layout file index.path) :
    (base.comparison layout file).Alike (Task.writeIndex index) fun _ => True :=
  (writeText_alike beside _).bind fun _ _ => (note_alike _ _ _).bind fun _ _ => .done trivial

include component notUp differs

theorem index_isBeside {directory : Path} (leads : base.LeadsTo directory place) :
    base.IsBeside ⟨some extension, some indexFile⟩ file (directory.join indexFile) :=
  ⟨directory, place, indexFile, rfl, leads, component, notUp, NewFile.ne_place differs place,
    .inr (Members.page?_of_isIndex (by simp [Layout.isIndex]))⟩

theorem writeRootIndex_alike (leads : base.LeadsTo root place) (groupNames : List String) :
    (base.comparison ⟨some extension, some indexFile⟩ file).Alike
      (Task.writeRootIndex root groupNames ⟨some extension, some indexFile⟩) fun _ => True := by
  have path : Layout.indexPath ⟨some extension, some indexFile⟩ root =
      .ok (root.join indexFile) := rfl
  rw [Task.writeRootIndex, path, Program.ofExcept_ok, Program.done_bind]
  exact writeIndex_alike (index_isBeside component notUp differs leads)

theorem writeGroupIndexes_alike {groups : List Group}
    (standing : ∀ group ∈ groups,
      base.HasGroupBeside ⟨some extension, some indexFile⟩ file group) :
    (base.comparison ⟨some extension, some indexFile⟩ file).Alike
      (Task.writeGroupIndexes ⟨some extension, some indexFile⟩ groups) fun _ => True := by
  induction groups with
  | nil => exact .done trivial
  | cons group rest ih =>
      obtain ⟨⟨⟨place, leads⟩, -⟩, others⟩ := List.forall_mem_cons.mp standing
      have beside : base.IsBeside ⟨some extension, some indexFile⟩ file
          (group.path.join indexFile) := index_isBeside component notUp differs leads
      have first : (base.comparison ⟨some extension, some indexFile⟩ file).Alike
          (Task.writeGroupIndex group ⟨some extension, some indexFile⟩) fun _ => True := by
        have path : Layout.indexPath ⟨some extension, some indexFile⟩ group.path =
            .ok (group.path.join indexFile) := rfl
        simp only [Task.writeGroupIndex, path, Program.ofExcept_ok, Program.done_bind]
        refine .bind (.ofExcept _) fun _ _ => .bind (.ofExcept _) fun content _ => ?_
        exact writeIndex_alike beside
      exact first.bind fun _ _ => (ih others).bind fun _ _ => .done trivial

theorem writeIndexes_alike (leads : base.LeadsTo root place) :
    (base.comparison ⟨some extension, some indexFile⟩ file).Alike
      (Task.writeIndexes root ⟨some extension, some indexFile⟩) fun _ => True := by
  refine (readTree_alike rfl leads).bind fun tree read => ?_
  obtain ⟨isRoot, standing⟩ := read
  refine (note_alike _ _ _).bind fun _ _ => ?_
  rw [isRoot]
  refine (writeRootIndex_alike component notUp differs leads _).bind fun _ _ => ?_
  exact (writeGroupIndexes_alike component notUp differs standing).bind fun _ _ => .done trivial

/-- A build does the same on both disks, whatever comes of it. -/
theorem buildTree_alike (leads : base.LeadsTo root place) :
    (base.comparison ⟨some extension, some indexFile⟩ file).Alike
      (Task.buildTree root ⟨some extension, some indexFile⟩) fun _ => True := by
  refine (readTree_alike rfl leads).bind fun tree read => ?_
  have beside : ∀ page ∈ tree.memberPaths,
      base.IsBeside ⟨some extension, some indexFile⟩ file page := by
    intro page listed
    obtain ⟨group, inTree, inGroup⟩ := List.mem_flatMap.mp listed
    exact (read.2 group inTree).2 page inGroup
  refine .bind (.ofExcept _) fun _ _ => ?_
  refine (completePages_alike beside).bind fun pages _ => ?_
  refine (note_alike _ _ _).bind fun _ _ => ?_
  exact (writeIndexes_alike component notUp differs leads).bind
    fun _ _ => .done trivial

end Indexes

end Disk

end PageLinker
