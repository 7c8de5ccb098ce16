import PageLinker.Proofs.Index.Effects
import PageLinker.Proofs.Memory.Pruning
import PageLinker.Proofs.Tree.Stability

/-!
# Where indexes can be written

An index of a tree that was found in a memory lies in a directory of that memory.  So it can be
written unless a directory takes its place, and where nothing is denied the outcome of writing the
indexes can be told from the tree and the directories alone.
-/

namespace PageLinker

namespace Memory

variable {memory : Memory}

theorem write_of_isDirectory {route : Route} (directory : memory.isDirectory route)
    (content : String) : memory.write route content = .error .isDirectory := by
  rw [Catalog.write, memory.isDirectory_eq_true_iff.mp directory]

theorem exists_write {path : Path} (parent : memory.isDirectory path.steps.dropLast)
    (free : memory.isDirectory path.steps = false) (content : String) :
    ∃ written, memory.write path.steps content = .ok written := by
  refine Catalog.exists_write path.areSteps_steps parent (fun found => ?_) content
  cases free.symm.trans (memory.isDirectory_eq_true_iff.mpr found)

/-- A directory stands where the index file belongs. -/
def blocks (memory : Memory) (file : IndexFile) : Bool :=
  memory.isDirectory file.path.steps

theorem blocks_write {route : Route} {content : String} {left : Memory}
    (granted : memory.write route content = .ok left) : left.blocks = memory.blocks :=
  funext fun file => Catalog.isDirectory_write granted file.path.steps

/-- Where nothing is denied, index files that lie in directories are written up to the first one
whose place is taken by a directory. -/
theorem run_writeIndexFiles_unhindered {files : List IndexFile}
    (placed : ∀ file ∈ files, memory.isDirectory file.path.steps.dropLast) :
    let outcome := (Task.writeIndexFiles files).run (handle Denial.nothing) memory
    outcome.writes = (files.takeWhile (!memory.blocks ·)).map IndexFile.write ∧
      outcome.result =
        match files.find? memory.blocks with
        | some file => .error (.refused .isDirectory file.path)
        | none => .ok files := by
  induction files generalizing memory with
  | nil => exact ⟨rfl, rfl⟩
  | cons file rest ih =>
      obtain ⟨first, others⟩ := List.forall_mem_cons.mp placed
      have step := run_writeIndex Denial.nothing memory file
      rw [Task.writeIndexFiles]
      cases blocked : memory.blocks file with
      | true =>
          rw [write_of_isDirectory blocked] at step
          have refused := congrArg Outcome.result step
          have nothingWritten := congrArg Outcome.writes step
          simp only [Program.result_bind_of_error refused, Program.writes_bind_of_error refused,
            nothingWritten, List.find?_cons, List.takeWhile_cons, blocked]
          exact ⟨rfl, trivial⟩
      | false =>
          obtain ⟨written, granted⟩ := exists_write first blocked file.content
          rw [guarded_eq_ok.mpr ⟨rfl, granted⟩] at step
          have result := congrArg Outcome.result step
          have state := congrArg Outcome.state step
          have writes : ((Task.writeIndex file).run (handle Denial.nothing) memory).writes =
              [file.write] := congrArg Outcome.writes step
          have later : ∀ other ∈ rest, written.isDirectory other.path.steps.dropLast := by
            intro other member
            rw [Catalog.isDirectory_write granted]
            exact others other member
          obtain ⟨laterWrites, laterResult⟩ := ih later
          rw [blocks_write granted] at laterWrites laterResult
          rw [Program.run_bind_of_ok result, Program.run_bind_pure, state]
          simp only [Outcome.precededBy_writes, Outcome.map_writes, writes, laterWrites,
            Outcome.precededBy_result, Outcome.map_result, laterResult, List.find?_cons,
            List.takeWhile_cons, blocked]
          refine ⟨rfl, ?_⟩
          cases rest.find? memory.blocks <;> rfl

section Trees

variable {root : Path} {extension indexFile : String} {tree : BuildTree}
  (component : IsComponent indexFile)
  (found : memory.survey root ⟨some extension, some indexFile⟩ = .ok tree)
include component found

theorem isDirectory_above_indexes :
    ∀ file ∈ tree.indexes indexFile, memory.isDirectory file.path.steps.dropLast := by
  obtain ⟨isRoot, rootDirectory, -, all⟩ := survey_eq_ok_iff.mp found
  refine List.forall_mem_cons.mpr ⟨?_, fun file listed => ?_⟩
  · have steps := tree.root.steps_join component
    rw [BuildTree.rootIndex, steps, List.dropLast_concat, isRoot]
    exact memory.isDirectory_eq_true_iff.mpr rootDirectory
  · obtain ⟨group, inTree, rfl⟩ := List.mem_map.mp listed
    obtain ⟨-, path, directory, -⟩ := surveyGroup_eq_ok_iff.mp (all group inTree)
    have steps := group.path.steps_join component
    rw [Group.index, steps, List.dropLast_concat, path]
    exact memory.isDirectory_eq_true_iff.mpr directory

/-- Where nothing is denied, the indexes before the first badly named page are written up to one
whose place is taken by a directory.  If there is none, the verdict on the names decides. -/
theorem run_writeIndexes_unhindered :
    let outcome := (Task.writeIndexes root ⟨some extension, some indexFile⟩).run
      (handle Denial.nothing) memory
    outcome.writes = ((tree.indexesBeforeBad indexFile).takeWhile
        (!memory.blocks ·)).map IndexFile.write ∧
      outcome.result =
        match (tree.indexesBeforeBad indexFile).find? memory.blocks with
        | some file => .error (.refused .isDirectory file.path)
        | none => (Naming.asFailure (validateGroups tree.groups)).map
            fun _ => tree.indexesBeforeBad indexFile := by
  have reading := Task.readTree_onlySurveys root ⟨some extension, some indexFile⟩
  have read := (run_readTree_result memory root ⟨some extension, some indexFile⟩).trans found
  have noting := Task.note_onlySurveys .index .info
    s!"Indexing {tree.root}: {tree.groups.length} groups"
  have noted := congrArg Outcome.result (run_note Denial.nothing memory .index .info
    s!"Indexing {tree.root}: {tree.groups.length} groups")
  have placed : ∀ file ∈ tree.indexesBeforeBad indexFile,
      memory.isDirectory file.path.steps.dropLast := fun file listed =>
    isDirectory_above_indexes component found file
      ((tree.indexesBeforeBad_prefix indexFile).subset listed)
  obtain ⟨writes, result⟩ := run_writeIndexFiles_unhindered placed
  simp only [Task.writeIndexes_eq, reading.writes_bind_of_ok read, reading.result_bind_of_ok read,
    Task.writeTreeIndexes, noting.writes_bind_of_ok noted, noting.result_bind_of_ok noted]
  cases blocked : (tree.indexesBeforeBad indexFile).find? memory.blocks with
  | some file =>
      rw [blocked] at result
      rw [Program.result_bind_of_error result, Program.writes_bind_of_error result]
      exact ⟨writes, rfl⟩
  | none =>
      rw [blocked] at result
      rw [Program.run_bind_of_ok result, Outcome.precededBy_writes, writes, Program.run_bind_pure,
        Program.run_ofExcept, Outcome.map_writes, Outcome.writes_of_granted_nil, List.append_nil]
      exact ⟨rfl, rfl⟩

end Trees

end Memory

end PageLinker
