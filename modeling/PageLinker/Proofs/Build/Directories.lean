import PageLinker.Proofs.Build.Beforehand
import PageLinker.Proofs.Tree.Extensions

/-!
# Directories among the pages

The pages of a group are told by their names alone, so a subdirectory that has the extension is
taken for one.  The members of a group are files exactly when no subdirectory passes for a page.
Otherwise a build stops at the first page that is a directory, with the pages before it completed.
-/

namespace PageLinker

namespace Task

/-- Pages can be completed in two parts, one after the other. -/
theorem completePages_append (pages others : List Path) :
    completePages (pages ++ others) =
      completePages pages >>= fun done => completePages others >>= fun later =>
        pure (done.1 ++ later.1, done.2 ++ later.2) := by
  induction pages with
  | nil => exact (bind_pure (completePages others)).symm
  | cons page rest ih =>
      have inFront (completed : Bool) (done later : List Path × List Path) :
          withPage page completed (done.1 ++ later.1, done.2 ++ later.2) =
            ((withPage page completed done).1 ++ later.1,
              (withPage page completed done).2 ++ later.2) := by
        cases completed <;> rfl
      simp only [List.cons_append, completePages_cons, ih, bind_assoc, pure_bind, inFront]

end Task

namespace Memory

variable {memory : Memory} {page : Path} {extension indexFile : String}

/-- No subdirectory passes for a page: each is called like the index or lacks the extension. -/
def DirectoriesApart (memory : Memory) (directory : Path) (extension indexFile : String) : Prop :=
  ∀ name ∈ memory.names directory.steps, memory.isDirectory (directory.join name).steps = true →
    name = indexFile ∨ Layout.stripExtension name extension = none

instance (memory : Memory) (directory : Path) (extension indexFile : String) :
    Decidable (memory.DirectoriesApart directory extension indexFile) :=
  inferInstanceAs (Decidable (∀ name ∈ memory.names directory.steps,
    memory.isDirectory (directory.join name).steps = true →
      name = indexFile ∨ Layout.stripExtension name extension = none))

/-- What stands at a path is either a file or a directory. -/
theorem isFile_iff_of_isSome (present : (memory.find? page.steps).isSome) :
    memory.IsFile page ↔ memory.isDirectory page.steps = false := by
  obtain ⟨entry, found⟩ := Option.isSome_iff_exists.mp present
  rw [IsFile, Catalog.isDirectory, found]
  cases entry <;> simp [Entry.isDirectory]

section Members

variable {denied : Denial} {directory : Path} {members : List Member}
  (collected : ((Task.memberFiles directory ⟨some extension, some indexFile⟩).run
    (handle denied) memory).result = .ok members)
include collected

/-- The members of a directory are its entries with the extension, the index apart. -/
theorem mem_filenames_iff {name : String} :
    name ∈ members.map (·.filename) ↔ name ∈ memory.names directory.steps ∧
      name ≠ indexFile ∧ Layout.stripExtension name extension ≠ none := by
  rw [← Program.run_of_curbs (handle_curbs denied) collected, run_memberFiles_result,
    except_bind_eq_ok] at collected
  obtain ⟨filenames, listed, collects⟩ := collected
  obtain ⟨-, rfl⟩ := list_eq_ok_iff.mp (Failure.about_eq_ok.mp listed)
  obtain ⟨same, -⟩ := (Members.collect_eq_ok_iff rfl).mp collects
  have isPage (member : Member) : member ∈ members ↔
      member.filename ∈ memory.names directory.steps ∧
        Layout.isIndex ⟨some extension, some indexFile⟩ member.filename = false ∧
          Layout.base? ⟨some extension, some indexFile⟩ member.filename = .ok (some member.base) :=
    same.mem_iff.trans (Members.mem_pagesAmong_iff rfl)
  simp only [List.mem_map, isPage, Layout.isIndex_eq_false_iff, Layout.base?, Except.ok.injEq,
    Option.ne_none_iff_exists']
  constructor
  · rintro ⟨member, ⟨inDirectory, apart, stripped⟩, rfl⟩
    exact ⟨inDirectory, apart, member.base, stripped⟩
  · rintro ⟨inDirectory, apart, base, stripped⟩
    exact ⟨⟨base, name⟩, ⟨inDirectory, apart, stripped⟩, rfl⟩

/-- The members of a directory are files exactly when no subdirectory passes for a page. -/
theorem members_are_files_iff :
    (∀ member ∈ members, memory.IsFile (directory.join member.filename)) ↔
      memory.DirectoriesApart directory extension indexFile := by
  have isFile_iff {name : String} (listed : name ∈ memory.names directory.steps) :
      memory.IsFile (directory.join name) ↔
        memory.isDirectory (directory.join name).steps = false :=
    isFile_iff_of_isSome (steps_join_of_mem_names listed ▸ memory.mem_names_iff.mp listed)
  constructor
  · intro files name listed isDirectory
    by_contra passes
    obtain ⟨apart, stripped⟩ := not_or.mp passes
    have isMember := (mem_filenames_iff collected).mpr ⟨listed, apart, stripped⟩
    obtain ⟨member, inGroup, rfl⟩ := List.mem_map.mp isMember
    have notDirectory := (isFile_iff listed).mp (files member inGroup)
    cases isDirectory.symm.trans notDirectory
  · intro apart member inGroup
    obtain ⟨listed, notIndex, stripped⟩ :=
      (mem_filenames_iff collected).mp (List.mem_map_of_mem inGroup)
    refine (isFile_iff listed).mpr (Bool.eq_false_iff.mpr fun isDirectory => ?_)
    exact (apart _ listed isDirectory).elim notIndex stripped

end Members

section Stopping

variable {before : List Path}

theorem run_completePage_of_directory (isDirectory : memory.isDirectory page.steps = true) :
    (Task.completePage page).run (handle Denial.nothing) memory =
      ⟨.error (.refused .isDirectory page), memory, []⟩ := by
  have unread : memory.read page = .error .isDirectory := by
    rw [read, memory.isDirectory_eq_true_iff.mp isDirectory]
  have refused := run_readText Denial.nothing memory page
  rw [unread] at refused
  rw [Task.completePage, Program.run_bind_of_error (by rw [refused]; rfl), refused]
  rfl

/-- Completing stops at the first page that is a directory, with the pages before it completed. -/
theorem run_completePages_of_directory (distinct : before.Nodup)
    (files : ∀ earlier ∈ before, memory.IsFile earlier)
    (isDirectory : memory.isDirectory page.steps = true) (after : List Path) :
    let outcome :=
      (Task.completePages (before ++ page :: after)).run (handle Denial.nothing) memory
    outcome.result = .error (.refused .isDirectory page) ∧
      outcome.writes = (before.filter memory.lacksBlock).map memory.completion := by
  obtain ⟨finished, state, writes⟩ := run_completePages_of_files distinct files
  have still : (memory.withCompleted (before.filter memory.lacksBlock)).isDirectory page.steps =
      true :=
    ((memory.sameShape_withCompleted _).isDirectory_eq page.steps).trans isDirectory
  have refused := run_completePage_of_directory still
  rw [← state] at refused
  simp only [Task.completePages_append, Task.completePages_cons, Program.run_bind_of_ok finished,
    bind_assoc, Outcome.precededBy_result, Outcome.precededBy_writes, writes]
  rw [Program.run_bind_of_error (by rw [refused]), refused]
  exact ⟨rfl, List.append_nil _⟩

section Trees

variable {after : List Path} {root : Path} {tree : BuildTree}
  (found : ((Task.readTree root ⟨some extension, some indexFile⟩).run
    (handle Denial.nothing) memory).result = .ok tree)
include found

/-- The pages of a tree are files exactly when no subdirectory of a group passes for a page. -/
theorem memberPaths_are_files_iff :
    (∀ page ∈ tree.memberPaths, memory.IsFile page) ↔
      ∀ group ∈ tree.groups, memory.DirectoriesApart group.path extension indexFile := by
  have ofGroup : ∀ group ∈ tree.groups, (∀ page ∈ group.memberPaths, memory.IsFile page) ↔
      memory.DirectoriesApart group.path extension indexFile := by
    intro group listed
    have surveyed := (survey_eq_ok_iff.mp (survey_of_read found)).2.2.2 group listed
    obtain ⟨-, path, directory, collects⟩ := surveyGroup_eq_ok_iff.mp surveyed
    rw [← path] at directory collects
    have filenames : Failure.about group.path (memory.list group.path) =
        .ok (memory.names group.path.steps) :=
      Failure.about_eq_ok.mpr (list_eq_ok_iff.mpr ⟨directory, rfl⟩)
    have collected := (run_memberFiles_result memory group.path _).trans
      (except_bind_eq_ok.mpr ⟨_, filenames, collects⟩)
    rw [← members_are_files_iff collected, Group.memberPaths, List.forall_mem_map]
  rw [BuildTree.memberPaths, List.forall_mem_flatMap]
  exact forall₂_congr ofGroup

/-- Of pages that are not all files, the first other one is a directory. -/
theorem exists_first_directory (passes : ¬ ∀ page ∈ tree.memberPaths, memory.IsFile page) :
    ∃ before page after, tree.memberPaths = before ++ page :: after ∧
      (∀ earlier ∈ before, memory.IsFile earlier) ∧ memory.isDirectory page.steps = true := by
  have isFile_iff : ∀ page ∈ tree.memberPaths,
      memory.IsFile page ↔ memory.isDirectory page.steps = false :=
    fun page listed => isFile_iff_of_isSome
      (find?_isSome_of_mem_memberPaths (survey_of_read found) listed)
  cases first : tree.memberPaths.find? (memory.isDirectory ·.steps) with
  | none =>
      refine absurd (fun page listed => (isFile_iff page listed).mpr ?_) passes
      simpa using List.find?_eq_none.mp first page listed
  | some page =>
      obtain ⟨isDirectory, before, after, pages, apart⟩ := List.find?_eq_some_iff_append.mp first
      refine ⟨before, page, after, pages, fun earlier listed => ?_, isDirectory⟩
      exact (isFile_iff earlier (by simp [pages, listed])).mpr (by simpa using apart earlier listed)

theorem run_buildTree_of_directory (wellNamed : ∀ group ∈ tree.groups, group.IsWellNamed)
    (pages : tree.memberPaths = before ++ page :: after)
    (files : ∀ earlier ∈ before, memory.IsFile earlier)
    (isDirectory : memory.isDirectory page.steps = true) :
    let outcome := (Task.buildTree root ⟨some extension, some indexFile⟩).run
      (handle Denial.nothing) memory
    outcome.result = .error (.refused .isDirectory page) ∧
      outcome.writes = (before.filter memory.lacksBlock).map memory.completion := by
  have distinct := (survey_isLaidOut (survey_of_read found)).memberPaths_nodup
  rw [pages] at distinct
  obtain ⟨refused, writes⟩ := run_completePages_of_directory
    (List.nodup_append'.mp distinct).1 files isDirectory after
  rw [← pages] at refused writes
  obtain ⟨sameResult, sameWrites⟩ := buildTree_onward_of_wellNamed found wellNamed
  refine ⟨sameResult.trans (Program.result_bind_of_error refused _), ?_⟩
  rw [sameWrites, Program.writes_bind_of_error refused, writes]

end Trees

end Stopping

/-- The members of a directory are files unless a subdirectory passes for a page.  A build over
such a group, with all names in order, stops at the first page that is a directory, and has
completed the pages before it that lacked their block. -/
theorem members_are_files_or_build_stops (denied : Denial) (memory : Memory)
    (extension indexFile : String) :
    let layout : Layout := ⟨some extension, some indexFile⟩
    (∀ directory members,
        ((Task.memberFiles directory layout).run (handle denied) memory).result = .ok members →
        ((∀ member ∈ members, memory.IsFile (directory.join member.filename)) ↔
          memory.DirectoriesApart directory extension indexFile)) ∧
      ∀ directory environment given root tree,
        let settings := Settings.ofTexts directory extension indexFile
        let outcome :=
          (Task.build settings environment given).run (handle Denial.nothing) memory
        settings.root environment given = .ok root →
        ((Task.readTree root layout).run (handle Denial.nothing) memory).result = .ok tree →
        (∀ group ∈ tree.groups, group.IsWellNamed) →
        (¬ ∀ group ∈ tree.groups, memory.DirectoriesApart group.path extension indexFile) →
        ∃ before page after, tree.memberPaths = before ++ page :: after ∧
          (∀ earlier ∈ before, memory.IsFile earlier) ∧
          memory.isDirectory page.steps = true ∧
          outcome.result = .error (.refused .isDirectory page) ∧
          outcome.writes = (before.filter memory.lacksBlock).map memory.completion := by
  intro layout
  refine ⟨fun directory members collected => members_are_files_iff collected, ?_⟩
  intro directory environment given root tree settings outcome resolved found wellNamed passes
  rw [← memberPaths_are_files_iff found] at passes
  obtain ⟨before, page, after, pages, files, isDirectory⟩ := exists_first_directory found passes
  have stops := run_buildTree_of_directory found wellNamed pages files isDirectory
  have same : Task.build settings environment given = Task.buildTree root layout :=
    Task.build_eq_buildTree resolved
  rw [← same] at stops
  exact ⟨before, page, after, pages, files, isDirectory, stops⟩

theorem build_stops_at_directory_of_pages :
    let memory := ofFiles [("build/en/About.js", "<p/>"), ("build/en/Note.js/readme.txt", ""),
      ("build/en/Zoo.js", "<p/>")]
    let outcome := (Task.build (.ofTexts "" ".js" "index.js") none none).run
      (handle Denial.nothing) memory
    let members := ((Task.memberFiles (Path.ofString "build/en") ⟨some ".js", some "index.js"⟩).run
      (handle Denial.nothing) memory).result
    ¬ memory.DirectoriesApart (Path.ofString "build/en") ".js" "index.js" ∧
      (∃ found, members = .ok found ∧
        ¬ ∀ member ∈ found, memory.IsFile ((Path.ofString "build/en").join member.filename)) ∧
      outcome.result = .error (.refused .isDirectory (Path.ofString "build/en/Note.js")) ∧
      outcome.writes = [memory.completion (Path.ofString "build/en/About.js")] := by
  intro memory outcome members
  have general := members_are_files_or_build_stops Denial.nothing memory ".js" "index.js"
  have passes : ¬ memory.DirectoriesApart (Path.ofString "build/en") ".js" "index.js" := by
    decide +kernel
  have collected : members =
      .ok [⟨"About", "About.js"⟩, ⟨"Note", "Note.js"⟩, ⟨"Zoo", "Zoo.js"⟩] := by
    decide +kernel
  have found : ((Task.readTree (Path.ofString "build") ⟨some ".js", some "index.js"⟩).run
      (handle Denial.nothing) memory).result = .ok ⟨Path.ofString "build", [⟨"en",
        Path.ofString "build/en",
        [⟨"About", "About.js"⟩, ⟨"Note", "Note.js"⟩, ⟨"Zoo", "Zoo.js"⟩]⟩]⟩ := by
    decide +kernel
  obtain ⟨before, page, after, pages, files, isDirectory, refused, writes⟩ :=
    general.2 "" none none _ _ (by decide +kernel) found (by decide +kernel)
      (by simpa using passes)
  refine ⟨passes, ⟨_, collected, (general.1 _ _ collected).not.mpr passes⟩, ?_⟩
  have inOrder : [Path.ofString "build/en/About.js", Path.ofString "build/en/Note.js",
      Path.ofString "build/en/Zoo.js"] = before ++ page :: after := by
    rw [← pages]
    decide +kernel
  have aboutIsFile : memory.isDirectory (Path.ofString "build/en/About.js").steps = false := by
    decide +kernel
  have noteIsDirectory : ¬ memory.IsFile (Path.ofString "build/en/Note.js") := by
    rintro ⟨text, stands⟩
    have other : memory.find? (Path.ofString "build/en/Note.js").steps = some .directory := by
      decide +kernel
    cases stands.symm.trans other
  -- the only way to part the three pages is between the first and the second
  match before with
  | [] =>
      obtain ⟨rfl, -⟩ := List.cons.inj inOrder
      cases isDirectory.symm.trans aboutIsFile
  | [earlier] =>
      simp only [List.cons_append, List.nil_append, List.cons.injEq] at inOrder
      obtain ⟨rfl, rfl, -⟩ := inOrder
      refine ⟨refused, writes.trans ?_⟩
      decide +kernel
  | first :: second :: later =>
      simp only [List.cons_append, List.cons.injEq] at inOrder
      obtain ⟨-, rfl, -⟩ := inOrder
      exact absurd (files _ (by simp)) noteIsDirectory

/-- A directory that has the extension is listed among the files of its group, and the index of
the group exports it.  A build tries to read it. -/
theorem directory_taken_for_page :
    let memory := ofFiles [("build/en/Note.js/readme.txt", "")]
    let layout : Layout := ⟨some ".js", some "index.js"⟩
    ((Task.memberFiles (Path.ofString "build/en") layout).run
        (handle Denial.nothing) memory).result = .ok [⟨"Note", "Note.js"⟩] ∧
      memory.find? (Path.ofString "build/en/Note.js").steps = some .directory ∧
      ((Task.writeIndexes (Path.ofString "build") layout).run
          (handle Denial.nothing) memory).result.map (·.map (·.content)) =
        .ok ["import en from './en'\n\nexport default \x7b\n  en\n\x7d\n",
          "import Note from './Note'\n\nexport default \x7b\n  note: Note\n\x7d\n"] ∧
      ((Task.build (.ofTexts "" ".js" "index.js") none none).run
          (handle Denial.nothing) memory).result =
        .error (.refused .isDirectory (Path.ofString "build/en/Note.js")) := by
  decide +kernel

end Memory

end PageLinker
