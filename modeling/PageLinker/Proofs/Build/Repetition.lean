import Mathlib.Data.List.Forall2
import PageLinker.Disk.Preparation
import PageLinker.Proofs.Build.Steps
import PageLinker.Proofs.Disk.Trees

/-!
# Builds repeated on a disk

A build that succeeds on a disk leaves every page of its tree with an import block and every index
with its text, while the tree itself stays.  So the same build succeeds again: it completes no page,
and what it writes is there already.  Pages may be names of one file, and so may indexes.  But where
a page is an index as well, the index takes its block away.
-/

namespace PageLinker

namespace Disk

variable {disk between left : Disk} {page : Path} {place route : Route} {tree : BuildTree}
  {extension indexFile text : String} {names : List String} {content : ByteArray} {number : Nat}

section Blocks

/-- The bytes are a text that opens with a library line. -/
def OpensWithBlock (content : ByteArray) : Prop :=
  ∃ text, decode content = .ok text ∧ ImportBlock.isPresent text = true

/-- The page can be read and opens with a library line. -/
def HasBlock (disk : Disk) (page : Path) : Prop :=
  ∃ number, disk.openFile page = .ok number ∧ OpensWithBlock (disk.bytes number)

theorem opensWithBlock_toUTF8 (present : ImportBlock.isPresent text = true) :
    OpensWithBlock text.toUTF8 :=
  ⟨_, decode_toUTF8 text, ImportBlock.isPresent_unified present⟩

theorem hasBlock_iff_readText :
    disk.HasBlock page ↔
      ∃ text, disk.readText page = .ok text ∧ ImportBlock.isPresent text = true := by
  simp only [HasBlock, OpensWithBlock, readText, except_bind_eq_ok, Failure.about_eq_ok, readBytes,
    except_map_eq_ok]
  constructor
  · rintro ⟨number, opened, text, decoded, present⟩
    exact ⟨text, ⟨_, ⟨number, opened, rfl⟩, decoded⟩, present⟩
  · rintro ⟨text, ⟨_, ⟨number, opened, rfl⟩, decoded⟩, present⟩
    exact ⟨number, opened, text, decoded, present⟩

/-- A page keeps its block when a file is given a text with one, be it the page's own. -/
theorem HasBlock.refill (hasBlock : disk.HasBlock page) (opens : OpensWithBlock content)
    (number : Nat) : (disk.refill number content).HasBlock page := by
  obtain ⟨own, opened, already⟩ := hasBlock
  refine ⟨own, opened, ?_⟩
  rw [bytes_refill]
  split
  · exact opens
  · exact already

/-- The disks have the same names, and no page has lost its block. -/
structure KeepsBlocks (disk left : Disk) : Prop where
  names : left = { disk with bytes := left.bytes }
  blocks : ∀ page, disk.HasBlock page → left.HasBlock page

theorem KeepsBlocks.refl (disk : Disk) : disk.KeepsBlocks disk :=
  ⟨rfl, fun _ hasBlock => hasBlock⟩

theorem KeepsBlocks.trans (first : disk.KeepsBlocks between) (second : between.KeepsBlocks left) :
    disk.KeepsBlocks left where
  names := by
    rw [second.names, first.names]
  blocks page hasBlock := second.blocks page (first.blocks page hasBlock)

theorem keepsBlocks_of_completePage {completed : Bool}
    (completes : (Task.completePage page).Yields handle disk completed left) :
    disk.KeepsBlocks left ∧ left.HasBlock page := by
  obtain ⟨text, read, outcome⟩ := (Task.completePage_yields_iff handle_isStorage).mp completes
  have found := (handle_readText.mp read).1
  rcases outcome with ⟨present, -, rfl⟩ | ⟨-, -, wrote⟩
  · exact ⟨.refl disk, hasBlock_iff_readText.mpr ⟨text, found, present⟩⟩
  · simp only [readText, except_bind_eq_ok, Failure.about_eq_ok, readBytes, except_map_eq_ok]
      at found
    obtain ⟨_, ⟨number, opened, -⟩, -⟩ := found
    have opens := opensWithBlock_toUTF8 (ImportBlock.isPresent_complete text)
    have granted := handle_writeText.mp wrote
    rw [writeText, writeBytes_of_openFile opened] at granted
    obtain rfl := Except.ok.inj granted
    refine ⟨⟨rfl, fun _ hasBlock => hasBlock.refill opens number⟩, number, opened, ?_⟩
    rwa [bytes_refill, if_pos rfl]

/-- After pages were completed, all of them have their blocks. -/
theorem keepsBlocks_of_completePages {pages : List Path} {answer : List Path × List Path}
    (completes : (Task.completePages pages).Yields handle disk answer left) :
    disk.KeepsBlocks left ∧ ∀ page ∈ pages, left.HasBlock page := by
  induction pages generalizing disk answer with
  | nil =>
      obtain ⟨-, rfl⟩ := Program.yields_done.mp completes
      exact ⟨.refl disk, by simp⟩
  | cons page rest ih =>
      obtain ⟨completed, between, completesFirst, later, completesRest, -⟩ :=
        Task.completePages_yields_cons.mp completes
      obtain ⟨keeps, hasBlock⟩ := keepsBlocks_of_completePage completesFirst
      obtain ⟨keepsRest, haveBlocks⟩ := ih completesRest
      exact ⟨keeps.trans keepsRest,
        List.forall_mem_cons.mpr ⟨keepsRest.blocks page hasBlock, haveBlocks⟩⟩

end Blocks

theorem Shows.of_names (shown : disk.Shows place ⟨some extension, some indexFile⟩ tree)
    (same : left = { disk with bytes := left.bytes }) :
    left.Shows place ⟨some extension, some indexFile⟩ tree := by
  rw [same]
  exact ⟨⟨shown.leads.leads, shown.leads.directory⟩, shown.linkFree, shown.groupNames,
    shown.group_path, shown.collected⟩

/-- The tree stands with all its pages completed, and none of them is the file of an index. -/
structure IsCompleted (disk : Disk) (place : Route) (extension indexFile : String)
    (tree : BuildTree) : Prop where
  shown : disk.Shows place ⟨some extension, some indexFile⟩ tree
  stable : disk.enumeration.IsStable
  pages : ∀ page ∈ tree.memberPaths, disk.HasBlock page
  apart : ∀ page names file others, tree.PageAt page names → tree.IndexAt indexFile file others →
    ¬ disk.SameFile (place ++ names) (place ++ others)

/-- The fills give each of the files its text. -/
def AreFillsOf (disk : Disk) (files : List IndexFile) (fills : List (Nat × ByteArray)) : Prop :=
  List.Forall₂ (fun file fill =>
    disk.openFile file.path = .ok fill.1 ∧ fill.2 = file.content.toUTF8) files fills

section Indexing

variable (completed : disk.IsCompleted place extension indexFile tree)
include completed

/-- Writing an index leaves a completed tree completed. -/
theorem IsCompleted.store {file : IndexFile} (stands : tree.IndexAt indexFile file names)
    (stored : disk.store (place ++ names) content = .ok left) :
    left.IsCompleted place extension indexFile tree := by
  have shownLeft := completed.shown.store stored completed.stable (.inr stands.eq_concat)
  have apartLeft : ∀ page names file others, tree.PageAt page names →
      tree.IndexAt indexFile file others → ¬ left.SameFile (place ++ names) (place ++ others) := by
    intro page others file third pageStands indexStands same
    rcases (sameFile_store stored).mp same with before | ⟨isNew, -⟩
    · exact completed.apart page others file third pageStands indexStands before
    · rw [List.append_cancel_left_eq] at isNew
      exact completed.shown.page_ne_index rfl pageStands (isNew ▸ stands)
  refine ⟨shownLeft, (enumeration_store stored) ▸ completed.stable, fun page listed => ?_,
    apartLeft⟩
  obtain ⟨others, pageStands⟩ := BuildTree.exists_pageAt listed
  obtain ⟨number, opened, opens⟩ := completed.pages page listed
  obtain ⟨route, located, isFile⟩ := openFile_eq_ok_iff.mp opened
  obtain rfl := Except.ok.inj (located.symm.trans
    (completed.shown.locate_page pageStands .content))
  have isFileLeft := contents_find?_store stored isFile
  refine ⟨number, openFile_eq_ok_iff.mpr ⟨_, shownLeft.locate_page pageStands .content,
    isFileLeft⟩, ?_⟩
  -- The page is another file than the index, so its bytes are what they were.
  obtain ⟨written, standsLeft, made⟩ := exists_number_store stored
  have differ : number ≠ written := by
    rintro rfl
    exact apartLeft page others file names pageStands stands
      (sameFile_iff.mpr ⟨number, isFileLeft, standsLeft⟩)
  have kept : left.bytes number = disk.bytes number := by
    rw [made]
    exact if_neg differ
  rwa [kept]

variable (component : IsComponent indexFile) (notUp : indexFile ≠ "..")
include component notUp

/-- Writing indexes leaves a completed tree completed, and fills the files of the indexes. -/
theorem exists_fills_of_writeIndexFiles {files written : List IndexFile}
    (listed : ∀ file ∈ files, file ∈ tree.indexes indexFile)
    (writes : (Task.writeIndexFiles files).Yields handle disk written left) :
    left.IsCompleted place extension indexFile tree ∧
      (∀ route entry, disk.contents.find? route = some entry →
        left.contents.find? route = some entry) ∧
      ∃ fills, left.AreFillsOf files fills ∧
        left = { disk.refillAll fills with contents := left.contents } := by
  induction files generalizing disk written with
  | nil =>
      obtain ⟨-, rfl⟩ := Program.yields_done.mp writes
      exact ⟨completed, fun _ _ found => found, [], .nil, rfl⟩
  | cons file rest ih =>
      obtain ⟨first, others⟩ := List.forall_mem_cons.mp listed
      obtain ⟨_, between, writesFirst, later, writesRest, -⟩ :=
        Task.writeIndexFiles_yields_cons.mp writes
      obtain ⟨names, stands⟩ := BuildTree.exists_indexAt first
      obtain ⟨-, wrote⟩ := (Task.writeIndex_yields_iff handle_isStorage).mp writesFirst
      have located := completed.shown.locate_index component notUp stands .making
      have stored := (writeText_eq_ok_iff located).mp (handle_writeText.mp wrote)
      obtain ⟨completedLeft, kept, fills, areFills, made⟩ :=
        ih (completed.store stands stored) others writesRest
      obtain ⟨number, isFile, madeFirst⟩ := exists_number_store stored
      have opened : left.openFile file.path = .ok number :=
        openFile_eq_ok_iff.mpr ⟨_, completedLeft.shown.locate_index component notUp stands .content,
          kept _ _ isFile⟩
      refine ⟨completedLeft, fun _ _ found => kept _ _ (contents_find?_store stored found),
        (number, file.content.toUTF8) :: fills, .cons ⟨opened, rfl⟩ areFills, ?_⟩
      have refilled : between.refillAll fills = { (disk.refill number file.content.toUTF8).refillAll
          fills with contents := between.contents } := by
        rw [madeFirst, refillAll_eq, refillAll_eq]
      rw [made, refilled]
      rfl

end Indexing

/-- The tree stands on the disk with all its pages completed and all its indexes written: to write
them once more changes nothing. -/
structure IsBuilt (disk : Disk) (place : Route) (extension indexFile : String)
    (tree : BuildTree) : Prop where
  completed : disk.IsCompleted place extension indexFile tree
  wellNamed : ∀ group ∈ tree.groups, group.IsWellNamed
  settled : ∃ fills, disk.AreFillsOf (tree.indexes indexFile) fills ∧
    disk.refillAll fills = disk

section Building

variable {root : Path} {report : BuildReport}

/-- Writing indexes named `..` cannot succeed, since a directory stands there. -/
theorem ne_up_of_writeIndexFiles {files : List IndexFile}
    (shown : disk.Shows place ⟨some extension, some indexFile⟩ tree)
    (writes : (Task.writeIndexFiles (tree.indexes indexFile)).Yields handle disk files left) :
    indexFile ≠ ".." := by
  rintro rfl
  obtain ⟨_, between, writesFirst, -⟩ := Task.writeIndexFiles_yields_cons.mp writes
  obtain ⟨-, wrote⟩ := (Task.writeIndex_yields_iff handle_isStorage).mp writesFirst
  have located := shown.leads.locate_up .making
  have stored := (writeText_eq_ok_iff located).mp (handle_writeText.mp wrote)
  obtain ⟨number, isFile, -⟩ := exists_number_store stored
  have directory := contents_find?_store stored (find?_dropLast shown.leads.directory)
  cases isFile.symm.trans directory

/-- The paths lead to one file. -/
def LeadToSameFile (disk : Disk) (first second : Path) : Prop :=
  ∃ number, disk.openFile first = .ok number ∧ disk.openFile second = .ok number

theorem Shows.leadToSameFile {page : Path} {file : IndexFile} {others : List String}
    (shown : disk.Shows place ⟨some extension, some indexFile⟩ tree)
    (component : IsComponent indexFile) (notUp : indexFile ≠ "..")
    (pageStands : tree.PageAt page names) (indexStands : tree.IndexAt indexFile file others)
    (same : disk.SameFile (place ++ names) (place ++ others)) :
    disk.LeadToSameFile page file.path := by
  obtain ⟨number, isPage, isIndex⟩ := sameFile_iff.mp same
  exact ⟨number, openFile_eq_ok_iff.mpr ⟨_, shown.locate_page pageStands .content, isPage⟩,
    openFile_eq_ok_iff.mpr ⟨_, shown.locate_index component notUp indexStands .content, isIndex⟩⟩

theorem mem_of_completePages {pages : List Path} {answer : List Path × List Path}
    (completes : (Task.completePages pages).Yields handle disk answer left)
    (listed : page ∈ pages) : page ∈ answer.1 ++ answer.2 := by
  induction pages generalizing disk answer with
  | nil => cases listed
  | cons first rest ih =>
      obtain ⟨completed, between, -, later, completesRest, rfl⟩ :=
        Task.completePages_yields_cons.mp completes
      rcases List.mem_cons.mp listed with rfl | inRest
      · cases completed <;> simp [Task.withPage]
      · have treated := ih completesRest inRest
        rw [List.mem_append] at treated
        cases completed with
        | true => simpa [Task.withPage] using .inr treated
        | false => simpa [Task.withPage] using treated.imp_right .inr

/-- A build that succeeds leaves the tree that it has read, and leaves it built. -/
theorem isBuilt_of_buildTree (component : IsComponent indexFile)
    (linkFree : disk.IsLinkFreeAt root) (stable : disk.enumeration.IsStable)
    (apart : ∀ page ∈ report.pageFiles ++ report.skippedFiles, ∀ index ∈ report.indexFiles,
      ¬ disk.LeadToSameFile page index.path)
    (succeeds : (Task.buildTree root ⟨some extension, some indexFile⟩).Yields
      handle disk report left) :
    ∃ place tree, ((Task.readTree root ⟨some extension, some indexFile⟩).run handle disk).result =
        .ok tree ∧ report.root = root ∧ tree.root = root ∧
        report.indexFiles = tree.indexes indexFile ∧
        left.IsBuilt place extension indexFile tree := by
  obtain ⟨tree, found, wellNamed, pages, between, completes, files, indexing, rfl⟩ :=
    (Task.buildTree_yields_iff handle_isStorage).mp succeeds
  obtain ⟨place, leads⟩ := exists_leadsTo_of_read found
  obtain ⟨rfl, shown⟩ :=
    (readTree_eq_ok_iff leads (linkFree place leads.locate_content)).mp found
  obtain ⟨keeps, haveBlocks⟩ := keepsBlocks_of_completePages completes
  have shownBetween := shown.of_names keeps.names
  obtain ⟨again, foundAgain, -, rfl, writes⟩ :=
    (Task.writeIndexes_yields_iff handle_isStorage).mp indexing
  -- The second reading finds the same tree, because it still stands after the pages are done.
  have stillFound := (readTree_eq_ok_iff shownBetween.leads shownBetween.linkFree).mpr
    ⟨rfl, shownBetween⟩
  obtain rfl : tree = again := Except.ok.inj (stillFound.symm.trans foundAgain)
  have notUp := ne_up_of_writeIndexFiles shownBetween writes
  have completed : between.IsCompleted place extension indexFile tree := by
    refine ⟨shownBetween, ?_, haveBlocks, ?_⟩
    · rw [keeps.names]
      exact stable
    · intro page names file others pageStands indexStands same
      rw [keeps.names] at same
      have treated := mem_of_completePages completes pageStands.mem_memberPaths
      exact apart page treated file indexStands.mem_indexes
        (shown.leadToSameFile component notUp pageStands indexStands same)
  obtain ⟨completedLeft, -, fills, areFills, made⟩ :=
    exists_fills_of_writeIndexFiles completed component notUp (fun _ listed => listed) writes
  refine ⟨place, tree, found, rfl, rfl, rfl, completedLeft, wellNamed, fills, areFills, ?_⟩
  have again := between.refillAll_twice fills
  rw [made]
  rw [refillAll_eq, refillAll_eq] at again ⊢
  exact congrArg (fun filled : Disk => { filled with contents := left.contents }) again

end Building

namespace IsBuilt

variable (built : disk.IsBuilt place extension indexFile tree)

include built in
theorem readTree_eq :
    ((Task.readTree tree.root ⟨some extension, some indexFile⟩).run handle disk).result =
      .ok tree :=
  (readTree_eq_ok_iff built.completed.shown.leads built.completed.shown.linkFree).mpr
    ⟨rfl, built.completed.shown⟩

/-- Pages that have their blocks are passed over. -/
theorem completePages_yields {pages : List Path}
    (haveBlocks : ∀ page ∈ pages, disk.HasBlock page) :
    (Task.completePages pages).Yields handle disk ([], pages) disk := by
  induction pages with
  | nil => exact Program.yields_done.mpr ⟨rfl, rfl⟩
  | cons page rest ih =>
      obtain ⟨first, others⟩ := List.forall_mem_cons.mp haveBlocks
      obtain ⟨text, read, opens⟩ := hasBlock_iff_readText.mp first
      have passes : (Task.completePage page).Yields handle disk false disk :=
        (Task.completePage_yields_iff handle_isStorage).mpr
          ⟨text, handle_readText.mpr ⟨read, rfl⟩, .inl ⟨opens, rfl, rfl⟩⟩
      exact Task.completePages_yields_cons.mpr ⟨false, disk, passes, _, ih others, rfl⟩

/-- Indexes whose files are there are written into them. -/
theorem writeIndexFiles_yields {files : List IndexFile} {fills : List (Nat × ByteArray)}
    (areFills : disk.AreFillsOf files fills) :
    (Task.writeIndexFiles files).Yields handle disk files (disk.refillAll fills) := by
  induction files generalizing disk fills with
  | nil =>
      cases areFills
      exact Program.yields_done.mpr ⟨rfl, rfl⟩
  | cons file rest ih =>
      cases areFills with
      | @cons _ fill _ fills first areRest =>
          obtain ⟨opened, filled⟩ := first
          have later : (disk.refill fill.1 fill.2).AreFillsOf rest fills := areRest
          have wrote : disk.writeText file.path file.content =
              .ok (disk.refill fill.1 fill.2) := by
            rw [writeText, writeBytes_of_openFile opened, filled]
          have writes : (Task.writeIndex file).Yields handle disk file
              (disk.refill fill.1 fill.2) :=
            (Task.writeIndex_yields_iff handle_isStorage).mpr ⟨rfl, handle_writeText.mpr wrote⟩
          exact Task.writeIndexFiles_yields_cons.mpr ⟨file, _, writes, rest, ih later, rfl⟩

include built in
/-- Where a tree is built already, a build succeeds and changes nothing. -/
theorem buildTree_yields :
    (Task.buildTree tree.root ⟨some extension, some indexFile⟩).Yields handle disk
      ⟨tree.root, [], tree.memberPaths, tree.indexes indexFile⟩ disk := by
  obtain ⟨fills, areFills, unchanged⟩ := built.settled
  have writes := writeIndexFiles_yields areFills
  rw [unchanged] at writes
  have indexing := (Task.writeIndexes_yields_iff handle_isStorage).mpr
    ⟨tree, built.readTree_eq, built.wellNamed, rfl, writes⟩
  exact (Task.buildTree_yields_iff handle_isStorage).mpr
    ⟨tree, built.readTree_eq, built.wellNamed, _, disk,
      completePages_yields built.completed.pages, _, indexing, rfl⟩

end IsBuilt

/-- A disk with these files below its working directory.  A file that cannot be made is left out. -/
def ofFiles (files : List (String × ByteArray)) : Disk :=
  files.foldl (fun disk file =>
    (disk.makeFile (Path.ofString file.1) file.2).toOption.getD disk)
    { contents := Catalog.empty, workingDirectory := [] }

/-- A build that succeeds below a place without links can be repeated, if new names leave the others
in the order in which they are listed, and no page is the file of an index under another name.  Then
it succeeds again, leaves all pages of the tree alone, and changes nothing on the disk. -/
theorem build_again {directory : String} {environment : Option String} {given : Option Path}
    {report : BuildReport} (component : IsComponent indexFile)
    (succeeded : ((Task.build (.ofTexts directory extension indexFile) environment given).run
      handle disk).result = .ok report)
    (linkFree : disk.IsLinkFreeAt report.root) (stable : disk.enumeration.IsStable)
    (apart : ∀ page ∈ report.pageFiles ++ report.skippedFiles, ∀ index ∈ report.indexFiles,
      ¬ disk.LeadToSameFile page index.path) :
    let settings := Settings.ofTexts directory extension indexFile
    let first := (Task.build settings environment given).run handle disk
    let again := (Task.build settings environment given).run handle first.state
    settings.root environment given = .ok report.root ∧
      ∃ tree, ((Task.readTree report.root settings.layout).run handle disk).result = .ok tree ∧
        ((Task.readTree report.root settings.layout).run handle first.state).result = .ok tree ∧
        again.result = .ok ⟨report.root, [], tree.memberPaths, report.indexFiles⟩ ∧
        again.state = first.state := by
  intro settings first again
  obtain ⟨root, resolved⟩ := Settings.exists_root_ofTexts directory extension indexFile
    environment given
  have same : Task.build settings environment given =
      Task.buildTree root ⟨some extension, some indexFile⟩ := Task.build_eq_buildTree resolved
  have yields : (Task.buildTree root ⟨some extension, some indexFile⟩).Yields handle disk report
      first.state := by
    rw [← same]
    exact ⟨succeeded, rfl⟩
  obtain rfl : report.root = root := by
    obtain ⟨-, -, -, -, -, -, -, -, rfl⟩ := (Task.buildTree_yields_iff handle_isStorage).mp yields
    rfl
  obtain ⟨place, tree, found, -, isRoot, indexFiles, built⟩ :=
    isBuilt_of_buildTree component linkFree stable apart yields
  obtain ⟨result, state⟩ := built.buildTree_yields
  rw [isRoot, ← same] at result state
  refine ⟨resolved, tree, found, ?_, ?_, state⟩
  · rw [← isRoot]
    exact built.readTree_eq
  · rw [indexFiles]
    exact result

/-- Two pages are one file, and so are two indexes.  The second of the pages is done when its turn
comes, and the second index replaces the first. -/
theorem build_again_of_mixed_line_ends :
    let files := [("build/en/Intro.js", "<Note/>\r\n<p/>\r".toUTF8),
      ("build/en/Note.js", "import React from 'react'\r\n".toUTF8),
      ("build/en/index.js", "\uFEFF\r".toUTF8), ("build/fr/photo.png", ⟨#[0xff, 0x0d, 0xfe]⟩)]
    let made := (((ofFiles files).makeName (Path.ofString "build/en/Intro.js")
      (Path.ofString "build/fr/Intro.js")).bind (·.makeName (Path.ofString "build/en/index.js")
      (Path.ofString "build/fr/index.js"))).bind (·.makeLink (Path.ofString "current") "build/")
    let disk := { made.toOption.getD (ofFiles files) with enumeration := .sorted }
    let task := Task.build (.ofTexts "" ".js" "index.js") none (some (Path.ofString "current"))
    let first := task.run handle disk
    let again := task.run handle first.state
    ∃ report, first.result = .ok report ∧
      report.pageFiles = [Path.ofString "current/en/Intro.js"] ∧
      disk.IsLinkFreeAt report.root ∧
      again.result = .ok ⟨report.root, [], [Path.ofString "current/en/Intro.js",
        Path.ofString "current/en/Note.js", Path.ofString "current/fr/Intro.js"],
        report.indexFiles⟩ ∧
      again.state = first.state := by
  intro files made disk
  dsimp only
  let pages := [Path.ofString "current/en/Intro.js"]
  let others := [Path.ofString "current/en/Note.js", Path.ofString "current/fr/Intro.js"]
  let indexes := [Path.ofString "current/index.js", Path.ofString "current/en/index.js",
    Path.ofString "current/fr/index.js"]
  have told : ((Task.build (.ofTexts "" ".js" "index.js") none
      (some (Path.ofString "current"))).run handle disk).result.map (fun report =>
        (report.root, report.pageFiles, report.skippedFiles, report.indexFiles.map (·.path))) =
      .ok (Path.ofString "current", pages, others, indexes) := by
    decide +kernel
  have pageNumbers : (pages ++ others).map disk.openFile = [.ok 1, .ok 2, .ok 1] := by
    decide +kernel
  have indexNumbers : indexes.map disk.openFile = [.error .notFound, .ok 3, .ok 3] := by
    decide +kernel
  have isApart : ∀ page ∈ pages ++ others, ∀ index ∈ indexes,
      ¬ disk.LeadToSameFile page index := by
    rintro page listed index written ⟨number, opened, openedToo⟩
    have isPage : .ok number ∈ (pages ++ others).map disk.openFile :=
      opened ▸ List.mem_map_of_mem listed
    have isIndex : .ok number ∈ indexes.map disk.openFile :=
      openedToo ▸ List.mem_map_of_mem written
    rw [pageNumbers] at isPage
    rw [indexNumbers] at isIndex
    simp only [List.mem_cons, Except.ok.injEq, reduceCtorEq, List.not_mem_nil, or_false,
      false_or, or_self] at isPage isIndex
    omega
  obtain ⟨report, succeeded, same⟩ := except_map_eq_ok.mp told
  simp only [Prod.mk.injEq] at same
  obtain ⟨isRoot, pageFiles, skippedFiles, indexFiles⟩ := same
  have apart : ∀ page ∈ report.pageFiles ++ report.skippedFiles, ∀ index ∈ report.indexFiles,
      ¬ disk.LeadToSameFile page index.path := by
    rw [pageFiles, skippedFiles]
    refine fun page listed index written => isApart page listed index.path ?_
    rw [← indexFiles]
    exact List.mem_map_of_mem written
  have linkFree : disk.IsLinkFreeAt report.root := by
    have located : disk.locate .content (Path.ofString "current") = .ok ["build"] := by
      decide +kernel
    rw [isRoot]
    intro place leads
    obtain rfl : ["build"] = place := Except.ok.inj (located.symm.trans leads)
    decide +kernel
  have members : ((Task.readTree (Path.ofString "current") ⟨some ".js", some "index.js"⟩).run
      handle disk).result.map (·.memberPaths) = .ok [Path.ofString "current/en/Intro.js",
        Path.ofString "current/en/Note.js", Path.ofString "current/fr/Intro.js"] := by
    decide +kernel
  obtain ⟨-, tree, found, -, result, state⟩ := build_again (by decide) succeeded linkFree
    Enumeration.sorted_isStable apart
  rw [isRoot] at found
  obtain ⟨other, foundToo, memberPaths⟩ := except_map_eq_ok.mp members
  obtain rfl : tree = other := Except.ok.inj (found.symm.trans foundToo)
  rw [memberPaths] at result
  exact ⟨report, succeeded, pageFiles, linkFree, result, state⟩

/-- A page that is the file of an index as well is completed in every build, since the index takes
its block away each time. -/
theorem build_completes_page_again :
    let files := [("build/en/Intro.js", "<p/>".toUTF8)]
    let page := Path.ofString "build/en/Intro.js"
    let disk := ((ofFiles files).makeName page (Path.ofString "build/en/index.js")).toOption.getD
      (ofFiles files)
    let task := Task.build (.ofTexts "" ".js" "index.js") none (some (Path.ofString "build"))
    let first := task.run handle disk
    let again := task.run handle first.state
    disk.IsLinkFreeFrom [] ∧ first.result.map (·.pageFiles) = .ok [page] ∧
      again.result.map (fun report => (report.pageFiles, report.skippedFiles)) =
        .ok ([page], []) := by
  decide +kernel

end Disk

end PageLinker
