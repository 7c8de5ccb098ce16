import PageLinker.Proofs.Index.Effects
import PageLinker.Proofs.Tree.Stability

/-!
# Resuming the writing of indexes

What an index says does not depend on the indexes that are there already.  So an interrupted run
that is started again finds the same tree, and writes the first indexes over with the texts that
they have.
-/

namespace PageLinker

namespace BuildTree

variable {layout : Layout} {tree : BuildTree} {indexFile : String}

theorem endsIn_of_mem_indexesBeforeBad (tree : BuildTree) (component : IsComponent indexFile) :
    ∀ file ∈ tree.indexesBeforeBad indexFile, file.path.EndsIn indexFile :=
  fun _ listed =>
    endsIn_of_mem_indexes component tree ((tree.indexesBeforeBad_prefix indexFile).subset listed)

theorem IsLaidOut.indexesBeforeBad_nodup (laidOut : tree.IsLaidOut layout)
    (component : IsComponent indexFile) :
    ((tree.indexesBeforeBad indexFile).map (·.path)).Nodup := by
  have distinct := laidOut.indexPaths_nodup component
  rw [← map_path_indexes] at distinct
  exact distinct.sublist ((tree.indexesBeforeBad_prefix indexFile).sublist.map _)

end BuildTree

namespace Task

variable {extension indexFile : String}

private theorem noteIndex_isSilent (file : IndexFile) :
    IsSilent (do
      note .index .debug s!"Wrote {file.path} ({file.entries.length} entries)"
      pure file) :=
  .bind (note_onlySurveys _ _ _).isSilent fun _ => trivial

theorem writeIndexFiles_writesInto {places : Path → Prop} {files : List IndexFile}
    (allowed : ∀ file ∈ files, places file.path) : (writeIndexFiles files).WritesInto places := by
  induction files with
  | nil => trivial
  | cons file rest ih =>
      obtain ⟨first, others⟩ := List.forall_mem_cons.mp allowed
      have writing : (writeIndex file).WritesInto places :=
        .bind (writeText_writesInto first _) fun _ => (noteIndex_isSilent file).writesInto places
      exact .bind writing fun _ => .bind (ih others) fun _ => trivial

theorem writeTreeIndexes_writesInto (component : IsComponent indexFile) (tree : BuildTree) :
    (writeTreeIndexes indexFile tree).WritesInto (·.EndsIn indexFile) := by
  have noting := note_onlySurveys .index .info
    s!"Indexing {tree.root}: {tree.groups.length} groups"
  have writing := writeIndexFiles_writesInto (tree.endsIn_of_mem_indexesBeforeBad component)
  exact .bind (noting.isSilent.writesInto _) fun _ =>
    .bind writing fun _ => .bind (.ofExcept _) fun _ => trivial

theorem writeIndexes_writesInto (component : IsComponent indexFile) (root : Path) :
    (writeIndexes root ⟨some extension, some indexFile⟩).WritesInto (·.EndsIn indexFile) := by
  have reading := readTree_onlySurveys root ⟨some extension, some indexFile⟩
  rw [writeIndexes_eq]
  exact .bind (reading.isSilent.writesInto _) (writeTreeIndexes_writesInto component)

end Task

namespace Memory

variable {memory : Memory} {file : IndexFile}

theorem writeIndex_settledAt (notTop : file.path.steps ≠ [])
    (found : memory.find? file.path.steps = some (.leaf file.content)) :
    (Task.writeIndex file).SettledAt (handle Denial.nothing) Eq file memory := by
  have unchanged := Catalog.write_same notTop found
  rw [Program.SettledAt, run_writeIndex, guarded_eq_ok.mpr ⟨rfl, unchanged⟩]
  exact ⟨file, rfl, rfl, rfl⟩

theorem find?_after_writeIndex {denied : Denial} {written : IndexFile}
    (succeeded : ((Task.writeIndex file).run (handle denied) memory).result = .ok written) :
    written = file ∧
      ((Task.writeIndex file).run (handle denied) memory).state.find? file.path.steps =
        some (.leaf file.content) := by
  rw [run_writeIndex] at succeeded ⊢
  cases writing : denied.guarded .writeText file.path
      (memory.write file.path.steps file.content) with
  | error failure => simp [writing] at succeeded
  | ok left =>
      obtain ⟨-, granted⟩ := guarded_eq_ok.mp writing
      simp only [writing, Except.ok.injEq] at succeeded
      refine ⟨succeeded.symm, ?_⟩
      simp only [Catalog.find?_write granted, if_pos]

theorem writeIndex_resumesFrom (notTop : file.path.steps ≠ []) (memory : Memory) :
    (Task.writeIndex file).ResumesFrom (handle Denial.nothing) Eq memory := by
  intro reached passes
  rcases passes_writeText_bind (Task.noteIndex_isSilent file) passes with rfl | written
  · exact .refl (fun _ => rfl) _
  · have found : reached.find? file.path.steps = some (.leaf file.content) := by
      rw [Catalog.find?_write written, if_pos rfl]
    have unchanged := Catalog.write_same notTop found
    rw [run_writeIndex, run_writeIndex, guarded_eq_ok.mpr ⟨rfl, written⟩,
      guarded_eq_ok.mpr ⟨rfl, unchanged⟩]
    exact ⟨rfl, .ok rfl⟩

/-- Index files at distinct places can be written in several attempts. -/
theorem writeIndexFiles_resumesFrom {files : List IndexFile}
    (distinct : (files.map (·.path)).Nodup) (notTop : ∀ file ∈ files, file.path.steps ≠ [])
    (memory : Memory) :
    (Task.writeIndexFiles files).ResumesFrom (handle Denial.nothing) Eq memory := by
  induction files generalizing memory with
  | nil => exact .of_still (fun _ => rfl) fun _ passes => passes
  | cons file rest ih =>
      obtain ⟨notLater, distinctRest⟩ := List.nodup_cons.mp distinct
      obtain ⟨fileNotTop, othersNotTop⟩ := List.forall_mem_cons.mp notTop
      have resumesRest := ih distinctRest othersNotTop
      refine .bind_eq (fun _ _ _ => .trans) (fun _ => rfl)
        (writeIndex_resumesFrom fileNotTop memory) ?_ ?_
      · intro written reached succeeded passes
        obtain ⟨rfl, found⟩ := find?_after_writeIndex succeeded
        have elsewhere : (Task.writeIndexFiles rest >>= fun later =>
            (pure (written :: later) : Task (List IndexFile))).WritesInto
              (· ∈ rest.map (·.path)) :=
          .bind (Task.writeIndexFiles_writesInto fun _ => List.mem_map_of_mem) fun _ => trivial
        have kept := find?_passed elsewhere passes notLater
        exact writeIndex_settledAt fileNotTop (kept.trans found)
      · intro written _
        exact (resumesRest _).map (fun _ _ _ => .trans) (fun _ => rfl)
          fun _ _ same => congrArg (written :: ·) same

theorem writeTreeIndexes_resumesFrom {layout : Layout} {tree : BuildTree} {indexFile : String}
    (component : IsComponent indexFile) (laidOut : tree.IsLaidOut layout) (memory : Memory) :
    (Task.writeTreeIndexes indexFile tree).ResumesFrom (handle Denial.nothing) Eq memory := by
  have noting := Task.note_onlySurveys .index .info
    s!"Indexing {tree.root}: {tree.groups.length} groups"
  have notTop : ∀ file ∈ tree.indexesBeforeBad indexFile, file.path.steps ≠ [] := by
    intro file listed
    obtain ⟨above, ends⟩ := tree.endsIn_of_mem_indexesBeforeBad component file listed
    simp [ends]
  have writing := writeIndexFiles_resumesFrom (laidOut.indexesBeforeBad_nodup component) notTop
  refine .bind_eq (fun _ _ _ => .trans) (fun _ => rfl) (noting.resumesFrom _ memory) ?_ ?_
  · exact fun _ reached _ _ => ⟨(), rfl, rfl, rfl⟩
  · intro _ _
    -- Whatever the verdict is, giving it passes no other memory.
    have still (files : List IndexFile) (state reached : Memory)
        (passes : Program.Passes (handle Denial.nothing) (do
          Program.ofExcept (Naming.asFailure (validateGroups tree.groups))
          (pure files : Task (List IndexFile))) state reached) : reached = state := by
      cases checked : Naming.asFailure (validateGroups tree.groups) <;>
        · rw [checked] at passes
          exact passes
    refine .bind_eq (fun _ _ _ => .trans) (fun _ => rfl) (writing memory) ?_ ?_
    · intro files reached succeeded passes
      rw [still _ _ _ passes]
      exact (writing memory).settledAt_end succeeded
    · exact fun files _ => .of_still (fun _ => rfl) (still files _)

/-- Writing the indexes under a root can be done in several attempts. -/
theorem writeIndexes_resumesFrom {extension indexFile : String}
    (component : IsComponent indexFile) (root : Path) (memory : Memory) :
    (Task.writeIndexes root ⟨some extension, some indexFile⟩).ResumesFrom
      (handle Denial.nothing) Eq memory := by
  have reading := Task.readTree_onlySurveys root ⟨some extension, some indexFile⟩
  rw [Task.writeIndexes_eq]
  refine .bind_eq (fun _ _ _ => .trans) (fun _ => rfl) (reading.resumesFrom _ memory) ?_ ?_
  · intro tree reached succeeded passes
    rw [reading.state_eq] at passes
    have touches := Task.writeTreeIndexes_writesInto component tree
    have kept := survey_kept rfl (touches.mono fun request writes write written =>
      .inr (writes write written)) (survey_of_read succeeded) passes
    exact readTree_settledAt kept
  · intro tree succeeded
    rw [reading.state_eq]
    have laidOut := survey_isLaidOut (survey_of_read succeeded)
    exact writeTreeIndexes_resumesFrom component laidOut memory

end Memory

end PageLinker
