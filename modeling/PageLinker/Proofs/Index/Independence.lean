import PageLinker.Proofs.Index.Placing

/-!
# What indexes do not depend on

The indexes of a tree are told from the directories and the names in them.  No text is read for
them, and an index that is there already is neither a group nor a page.  So they come out the same
whatever the files say and whichever indexes are there before.
-/

namespace PageLinker

/-- Nothing but the reading of texts is denied. -/
def Denial.OnlyOfReading (denied : Denial) : Prop :=
  ∀ access path, denied access path → access = .readText

/-- The place bears the name of the index, in the root or one step below it. -/
def Path.IsIndexPlace (root : Path) (indexFile : String) (route : Route) : Prop :=
  route.getLast? = some indexFile ∧
    (route.dropLast = root.steps ∨ route.dropLast.dropLast = root.steps)

instance (root : Path) (indexFile : String) : DecidablePred (root.IsIndexPlace indexFile) :=
  fun _ => inferInstanceAs (Decidable (_ ∧ (_ ∨ _)))

namespace Path

variable {root : Path} {indexFile : String}

theorem IsIndexPlace.name_eq {directory : Route} {name : String}
    (place : root.IsIndexPlace indexFile (directory ++ [name])) : name = indexFile := by
  simpa using place.1

theorem not_isIndexPlace_of_length_le {route : Route}
    (short : route.length ≤ root.steps.length) : ¬ root.IsIndexPlace indexFile route := by
  rintro ⟨last, above | above⟩
  · have lengths := congrArg List.length above
    rw [List.length_dropLast] at lengths
    have empty : route = [] := List.eq_nil_of_length_eq_zero (by omega)
    simp [empty] at last
  · have lengths := congrArg List.length above
    rw [List.length_dropLast, List.length_dropLast] at lengths
    have empty : route = [] := List.eq_nil_of_length_eq_zero (by omega)
    simp [empty] at last

end Path

namespace Task

/-- The task reads no text. -/
abbrev ReadsNothing {α : Type} (task : Task α) : Prop :=
  task.Within fun request => ∀ path, request ≠ .readText path

theorem OnlySurveys.readsNothing {α : Type} {task : Task α} (surveys : task.OnlySurveys) :
    task.ReadsNothing := by
  refine surveys.mono ?_
  rintro request survey path rfl
  exact survey

theorem writeIndexFiles_readsNothing (files : List IndexFile) :
    (writeIndexFiles files).ReadsNothing := by
  induction files with
  | nil => trivial
  | cons file rest ih =>
      have writing : (writeText file.path file.content).ReadsNothing := .request (by simp)
      have noting := note_onlySurveys .index .debug
        s!"Wrote {file.path} ({file.entries.length} entries)"
      have one : (writeIndex file).ReadsNothing :=
        writing.bind fun _ => noting.readsNothing.bind fun _ => trivial
      exact one.bind fun _ => ih.bind fun _ => trivial

/-- No text is read for the indexes. -/
theorem writeIndexes_readsNothing (root : Path) (extension indexFile : String) :
    (writeIndexes root ⟨some extension, some indexFile⟩).ReadsNothing := by
  rw [writeIndexes_eq]
  refine (readTree_onlySurveys root _).readsNothing.bind fun tree => ?_
  have noting := note_onlySurveys .index .info
    s!"Indexing {tree.root}: {tree.groups.length} groups"
  exact noting.readsNothing.bind fun _ =>
    (writeIndexFiles_readsNothing _).bind fun _ => (Program.Within.ofExcept _).bind fun _ => trivial

end Task

namespace Memory

theorem run_of_onlyOfReading {denied : Denial} (only : denied.OnlyOfReading) {α : Type}
    {task : Task α} (readsNothing : task.ReadsNothing) (memory : Memory) :
    task.run (handle denied) memory = task.run (handle Denial.nothing) memory := by
  have granted (access : Access) (other : access ≠ .readText) (path : Path) :
      denied access path = false :=
    Bool.eq_false_iff.mpr fun refused => other (only access path refused)
  refine readsNothing.run_eq (fun request unread => ?_) memory
  funext state
  cases request with
  | readText path => exact absurd rfl (unread path)
  | note record => rfl
  | listDir path => simp only [handle, Denial.guarded, granted .listDir (by decide)]; rfl
  | isDir path => simp only [handle, Denial.guarded, granted .isDir (by decide)]; rfl
  | writeText path content =>
      simp only [handle, Denial.guarded, granted .writeText (by decide)]; rfl

/-- The memory without the files at the places of indexes. -/
def withoutIndexes (memory : Memory) (root : Path) (indexFile : String) : Memory :=
  Catalog.withoutLeaves memory (root.IsIndexPlace indexFile)

section Surveys

variable (memory : Memory) (root : Path) (indexFile : String)

theorem find?_withoutIndexes_of_length_le {route : Route}
    (short : route.length ≤ root.steps.length) :
    (memory.withoutIndexes root indexFile).find? route = memory.find? route :=
  Catalog.find?_withoutLeaves_of_kept memory _ (Path.not_isIndexPlace_of_length_le short)

theorem absence_withoutIndexes :
    (memory.withoutIndexes root indexFile).absence root.steps = memory.absence root.steps := by
  have same : ∀ above ∈ passedPlaces root.steps,
      (memory.withoutIndexes root indexFile).find? above = memory.find? above := by
    intro above passed
    obtain ⟨count, -, rfl⟩ := List.mem_map.mp passed
    refine find?_withoutIndexes_of_length_le memory root indexFile ?_
    rw [List.length_take]
    omega
  rw [Catalog.absence, Catalog.absence]
  refine if_congr ?_ rfl rfl
  simp only [List.any_eq_true]
  exact exists_congr fun above => and_congr_right fun passed => by rw [same above passed]

theorem groupNames_withoutIndexes :
    ((memory.withoutIndexes root indexFile).names root.steps).filter
        (fun name => (memory.withoutIndexes root indexFile).isDirectory (root.join name).steps) =
      (memory.names root.steps).filter fun name => memory.isDirectory (root.join name).steps := by
  rw [withoutIndexes, Catalog.names_withoutLeaves, List.filter_filter]
  refine List.filter_congr fun name listed => ?_
  rw [Catalog.isDirectory_withoutLeaves, steps_join_of_mem_names listed]
  cases memory.isDirectory (root.steps ++ [name]) <;> rfl

variable {memory root indexFile} {layout : Layout}

theorem surveyGroup_withoutIndexes (indexSet : layout.indexFile = some indexFile) {name : String}
    (directory : memory.isDirectory (root.join name).steps) :
    (memory.withoutIndexes root indexFile).surveyGroup root layout name =
      memory.surveyGroup root layout name := by
  have kept : (memory.withoutIndexes root indexFile).isDirectory (root.join name).steps := by
    rw [withoutIndexes, Catalog.isDirectory_withoutLeaves]
    exact directory
  rw [surveyGroup, surveyGroup, list, list, Catalog.isDirectory_eq_true_iff _ |>.mp kept,
    memory.isDirectory_eq_true_iff.mp directory]
  simp only [Failure.about, except_ok_bind]
  -- The names that went missing are those of an index, which is not collected.
  rw [← Members.collect_filter, ← Members.collect_filter (memory.names (root.join name).steps),
    withoutIndexes, Catalog.names_withoutLeaves, List.filter_filter]
  refine congrArg (fun filenames => Members.collect layout (root.join name).name filenames >>= _) ?_
  refine List.filter_congr fun filename _ => ?_
  by_cases isIndex : layout.isIndex filename
  · simp [isIndex]
  · have apart : ¬ root.IsIndexPlace indexFile ((root.join name).steps ++ [filename]) := by
      intro place
      refine isIndex ?_
      rw [Layout.isIndex, indexSet, place.name_eq]
      exact beq_self_eq_true _
    simp [apart]

theorem surveyGroups_withoutIndexes (indexSet : layout.indexFile = some indexFile)
    {names : List String}
    (directories : ∀ name ∈ names, memory.isDirectory (root.join name).steps) :
    (memory.withoutIndexes root indexFile).surveyGroups root layout names =
      memory.surveyGroups root layout names := by
  induction names with
  | nil => rfl
  | cons name rest ih =>
      obtain ⟨first, others⟩ := List.forall_mem_cons.mp directories
      rw [surveyGroups, surveyGroups, surveyGroup_withoutIndexes indexSet first, ih others]

/-- Which indexes are there makes no difference to the tree that is found. -/
theorem survey_withoutIndexes (indexSet : layout.indexFile = some indexFile) :
    (memory.withoutIndexes root indexFile).survey root layout = memory.survey root layout := by
  have standing := find?_withoutIndexes_of_length_le memory root indexFile (Nat.le_refl _)
  rw [survey, survey, list, list, standing, absence_withoutIndexes]
  cases found : memory.find? root.steps with
  | none => rfl
  | some entry =>
      cases entry with
      | leaf text => rfl
      | directory =>
          simp only [Failure.about, except_ok_bind]
          rw [groupNames_withoutIndexes]
          exact congrArg (· >>= _) (surveyGroups_withoutIndexes indexSet fun name listed =>
            (List.mem_filter.mp listed).2)

end Surveys

/-- Writing the indexes comes out the same on memories that differ only in the texts of files and
in the indexes that are there, whatever reading of texts is denied. -/
theorem writeIndexes_ignores_texts_and_indexes {denied otherDenied : Denial}
    (only : denied.OnlyOfReading) (otherOnly : otherDenied.OnlyOfReading)
    {memory other : Memory} {root : Path} {indexFile : String} (component : IsComponent indexFile)
    (same : (memory.withoutIndexes root indexFile).SameShape
      (other.withoutIndexes root indexFile)) (extension : String) :
    let task := Task.writeIndexes root ⟨some extension, some indexFile⟩
    let first := task.run (handle denied) memory
    let second := task.run (handle otherDenied) other
    first.result = second.result ∧ first.writes = second.writes := by
  have readsNothing := Task.writeIndexes_readsNothing root extension indexFile
  simp only [run_of_onlyOfReading only readsNothing, run_of_onlyOfReading otherOnly readsNothing]
  have directories : memory.blocks = other.blocks := by
    funext file
    have kinds := same.isDirectory_eq file.path.steps
    rwa [withoutIndexes, withoutIndexes, Catalog.isDirectory_withoutLeaves,
      Catalog.isDirectory_withoutLeaves] at kinds
  have surveys : memory.survey root ⟨some extension, some indexFile⟩ =
      other.survey root ⟨some extension, some indexFile⟩ := by
    rw [← survey_withoutIndexes rfl, survey_eq_of_sameShape same, survey_withoutIndexes rfl]
  cases found : memory.survey root ⟨some extension, some indexFile⟩ with
  | error failure =>
      have unread := (run_readTree_result memory root _).trans found
      have otherUnread := (run_readTree_result other root _).trans (surveys.symm.trans found)
      obtain ⟨result, writes, -⟩ := run_writeIndexes_of_error unread
      obtain ⟨otherResult, otherWrites, -⟩ := run_writeIndexes_of_error otherUnread
      exact ⟨result.trans otherResult.symm, writes.trans otherWrites.symm⟩
  | ok tree =>
      obtain ⟨writes, result⟩ := run_writeIndexes_unhindered component found
      obtain ⟨otherWrites, otherResult⟩ :=
        run_writeIndexes_unhindered component (surveys.symm.trans found)
      rw [directories] at writes result
      exact ⟨result.trans otherResult.symm, writes.trans otherWrites.symm⟩

theorem writeIndexes_ignores_stale_indexes :
    let memory := ofFiles [("build/index.js", "stale"), ("build/en/Intro.js", "<Note/>"),
      ("build/en/index.js", "stale"), ("build/fr/Intro.js", "")]
    let other := ofFiles [("build/en/Intro.js", "<p/>"), ("build/fr/index.js", "new"),
      ("build/fr/Intro.js", "<Note/>")]
    let task := Task.writeIndexes (Path.ofString "build") ⟨some ".js", some "index.js"⟩
    let denied := Denial.nothing.alsoDeny .readText (Path.ofString "build/en/Intro.js")
    let first := task.run (handle denied) memory
    let second := task.run (handle Denial.nothing) other
    second.writes.map (·.1) = ["build/index.js", "build/en/index.js", "build/fr/index.js"].map
        Path.ofString ∧
      first.result = second.result ∧ first.writes = second.writes := by
  intro memory other task denied first second
  have component : IsComponent "index.js" := by decide
  have only : denied.OnlyOfReading := by
    intro access path refused
    simp only [denied, Denial.alsoDeny, Denial.nothing, Bool.or_false, Bool.and_eq_true,
      beq_iff_eq] at refused
    exact refused.1
  have otherOnly : Denial.nothing.OnlyOfReading := fun _ _ refused => nomatch refused
  have same : (memory.withoutIndexes (Path.ofString "build") "index.js").SameShape
      (other.withoutIndexes (Path.ofString "build") "index.js") :=
    Catalog.sameShape_of_outline (by decide +kernel)
  have places : second.writes.map (·.1) =
      ["build/index.js", "build/en/index.js", "build/fr/index.js"].map Path.ofString := by
    decide +kernel
  exact ⟨places, writeIndexes_ignores_texts_and_indexes only otherOnly component same ".js"⟩

end Memory

end PageLinker
