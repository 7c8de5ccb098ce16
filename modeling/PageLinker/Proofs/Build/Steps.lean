import PageLinker.Proofs.Build.Effects
import PageLinker.Proofs.Program.Yielding

/-!
# Successful builds, step by step

Over every storage, a build that succeeds reads the tree, finds its names in order, completes the
pages one after the other, and writes the indexes of the tree that it then reads.
-/

namespace PageLinker

open Workspace (Request)

namespace Task

variable {State : Type} {handle : Handler Request State} {state left : State} {root : Path}
  {layout : Layout} {extension indexFile : String}

theorem completePages_yields_cons {page : Path} {rest : List Path}
    {answer : List Path × List Path} :
    (completePages (page :: rest)).Yields handle state answer left ↔
      ∃ completed between, (completePage page).Yields handle state completed between ∧
        ∃ later, (completePages rest).Yields handle between later left ∧
          withPage page completed later = answer := by
  rw [completePages_cons, Program.yields_bind]
  simp only [Program.yields_bind_pure]

theorem writeIndexFiles_yields_cons {file : IndexFile} {rest files : List IndexFile} :
    (writeIndexFiles (file :: rest)).Yields handle state files left ↔
      ∃ written between, (writeIndex file).Yields handle state written between ∧
        ∃ later, (writeIndexFiles rest).Yields handle between later left ∧
          written :: later = files := by
  rw [writeIndexFiles, Program.yields_bind]
  simp only [Program.yields_bind_pure]

section Storage

variable (storage : handle.IsStorage)
include storage

theorem completePage_yields_iff {page : Path} {completed : Bool} :
    (completePage page).Yields handle state completed left ↔
      ∃ text, handle (.readText page) state = .ok (text, state) ∧
        (ImportBlock.isPresent text = true ∧ completed = false ∧ state = left ∨
          ImportBlock.isPresent text = false ∧ completed = true ∧
            handle (.writeText page (ImportBlock.complete text)) state = .ok ((), left)) := by
  have afterwards (text : String) :
      Program.Yields handle (if ImportBlock.isPresent text then pure false
        else do
          writeText page (ImportBlock.complete text)
          pure true : Task Bool) state completed left ↔
        ImportBlock.isPresent text = true ∧ completed = false ∧ state = left ∨
          ImportBlock.isPresent text = false ∧ completed = true ∧
            handle (.writeText page (ImportBlock.complete text)) state = .ok ((), left) := by
    cases ImportBlock.isPresent text with
    | true => simp [eq_comm]
    | false =>
        rw [if_neg Bool.false_ne_true, Program.yields_bind_pure]
        simp only [writeText_yields_iff]
        constructor
        · rintro ⟨_, granted, rfl⟩
          exact .inr ⟨trivial, rfl, granted⟩
        · rintro (⟨⟨⟩, -⟩ | ⟨-, rfl, granted⟩)
          exact ⟨(), granted, rfl⟩
  rw [completePage, Program.yields_bind]
  simp only [readText_yields_iff]
  constructor
  · rintro ⟨text, between, found, later⟩
    obtain rfl : between = state := storage.unchanged rfl found
    exact ⟨text, found, (afterwards text).mp later⟩
  · rintro ⟨text, found, later⟩
    exact ⟨text, state, found, (afterwards text).mpr later⟩

theorem completeFile_yields_iff {path : Path} {completed : String} :
    (completeFile path).Yields handle state completed left ↔
      ∃ text, handle (.readText path) state = .ok (text, state) ∧
        completed = ImportBlock.complete text ∧
          handle (.writeText path completed) state = .ok ((), left) := by
  rw [completeFile, Program.yields_bind]
  simp only [readText_yields_iff, Program.yields_bind, writeText_yields_iff,
    note_yields_iff storage, Program.pure_eq, Program.yields_done]
  constructor
  · rintro ⟨text, between, found, _, written, granted, _, _, rfl, rfl, rfl⟩
    obtain rfl : between = state := storage.unchanged rfl found
    exact ⟨text, found, rfl, granted⟩
  · rintro ⟨text, found, rfl, granted⟩
    exact ⟨text, state, found, (), left, granted, (), left, rfl, rfl, rfl⟩

theorem writeIndex_yields_iff {file written : IndexFile} :
    (writeIndex file).Yields handle state written left ↔
      written = file ∧ handle (.writeText file.path file.content) state = .ok ((), left) := by
  rw [writeIndex, Program.yields_bind]
  simp only [writeText_yields_iff, Program.yields_bind_pure, note_yields_iff storage]
  constructor
  · rintro ⟨_, between, granted, _, rfl, rfl⟩
    exact ⟨rfl, granted⟩
  · rintro ⟨rfl, granted⟩
    exact ⟨(), left, granted, (), rfl, rfl⟩

theorem readTree_yields_iff {tree : BuildTree} :
    (readTree root layout).Yields handle state tree left ↔
      ((readTree root layout).run handle state).result = .ok tree ∧ state = left :=
  (readTree_onlySurveys root layout).isSilent.yields_iff storage

theorem writeIndexFiles_yields {files written : List IndexFile}
    (succeeds : (writeIndexFiles files).Yields handle state written left) : written = files := by
  induction files generalizing written state with
  | nil => exact (Program.yields_done.mp succeeds).1.symm
  | cons file rest ih =>
      obtain ⟨first, between, writes, later, writesRest, rfl⟩ :=
        writeIndexFiles_yields_cons.mp succeeds
      rw [((writeIndex_yields_iff storage).mp writes).1, ih writesRest]

/-- Writing the indexes succeeds when the tree can be read, its names are in order, and all its
indexes can be written. -/
theorem writeIndexes_yields_iff {files : List IndexFile} :
    (writeIndexes root ⟨some extension, some indexFile⟩).Yields handle state files left ↔
      ∃ tree, ((readTree root ⟨some extension, some indexFile⟩).run handle state).result =
          .ok tree ∧ (∀ group ∈ tree.groups, group.IsWellNamed) ∧
        files = tree.indexes indexFile ∧
        (writeIndexFiles (tree.indexes indexFile)).Yields handle state files left := by
  rw [writeIndexes_eq, Program.yields_bind]
  simp only [readTree_yields_iff storage, writeTreeIndexes, Program.yields_bind,
    note_yields_iff storage, Program.yields_ofExcept, Naming.asFailure_eq_ok_iff,
    Program.pure_eq, Program.yields_done]
  constructor
  · rintro ⟨tree, _, ⟨found, rfl⟩, _, _, rfl, written, between, writes, _, _, ⟨accepted, rfl⟩,
      rfl, rfl⟩
    have wellNamed := validateGroups_eq_ok_iff.mp accepted
    rw [BuildTree.indexesBeforeBad_of_wellNamed wellNamed] at writes
    exact ⟨tree, found, wellNamed, writeIndexFiles_yields storage writes, writes⟩
  · rintro ⟨tree, found, wellNamed, -, writes⟩
    rw [← BuildTree.indexesBeforeBad_of_wellNamed wellNamed] at writes
    exact ⟨tree, state, ⟨found, rfl⟩, (), state, rfl, files, left, writes, (), left,
      ⟨validateGroups_eq_ok_iff.mpr wellNamed, rfl⟩, rfl, rfl⟩

theorem buildTree_yields_iff {report : BuildReport} :
    (buildTree root layout).Yields handle state report left ↔
      ∃ tree, ((readTree root layout).run handle state).result = .ok tree ∧
        (∀ group ∈ tree.groups, group.IsWellNamed) ∧
        ∃ pages between, (completePages tree.memberPaths).Yields handle state pages between ∧
          ∃ files, (writeIndexes root layout).Yields handle between files left ∧
            report = ⟨root, pages.1, pages.2, files⟩ := by
  rw [buildTree_eq, Program.yields_bind]
  simp only [readTree_yields_iff storage, indexAfter, Program.yields_bind,
    note_yields_iff storage, Program.yields_ofExcept, Naming.asFailure_eq_ok_iff,
    Program.pure_eq, Program.yields_done]
  constructor
  · rintro ⟨tree, _, ⟨found, rfl⟩, _, _, ⟨accepted, rfl⟩, pages, between, completes, _, _, rfl,
      files, _, writes, rfl, rfl⟩
    have wellNamed := validateGroups_eq_ok_iff.mp accepted
    exact ⟨tree, found, wellNamed, pages, between, completes, files, writes, rfl⟩
  · rintro ⟨tree, found, wellNamed, pages, between, completes, files, writes, rfl⟩
    exact ⟨tree, state, ⟨found, rfl⟩, (), state, ⟨validateGroups_eq_ok_iff.mpr wellNamed, rfl⟩,
      pages, between, completes, (), between, rfl, files, left, writes, rfl, rfl⟩

end Storage

end Task

end PageLinker
