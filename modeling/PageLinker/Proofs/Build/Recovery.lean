import PageLinker.Proofs.Build.Effects
import PageLinker.Proofs.Index.Resuming
import PageLinker.Proofs.Page.Resuming

/-!
# Builds after failed attempts

A build that was cut short can be started again, as often as need be.  Whatever the attempts left
undone, one build that is not hindered ends as if there had been no attempt before it, except that
pages may count as done already.
-/

namespace PageLinker

/-- The reports tell of the same work, whichever attempt completed a page. -/
structure BuildReport.Agrees (first second : BuildReport) : Prop where
  root : first.root = second.root
  indexFiles : first.indexFiles = second.indexFiles
  pages : (first.pageFiles ++ first.skippedFiles).Perm (second.pageFiles ++ second.skippedFiles)

theorem BuildReport.Agrees.refl (report : BuildReport) : report.Agrees report :=
  ⟨rfl, rfl, .refl _⟩

theorem BuildReport.Agrees.trans (first second third : BuildReport)
    (agrees : first.Agrees second) (later : second.Agrees third) : first.Agrees third where
  root := agrees.root.trans later.root
  indexFiles := agrees.indexFiles.trans later.indexFiles
  pages := agrees.pages.trans later.pages

namespace Task

variable {indexFile : String} (component : IsComponent indexFile) (root : Path)
  (extension : String)
include component

theorem indexAfter_writesInto (pages : List Path × List Path) :
    (indexAfter root ⟨some extension, some indexFile⟩ pages).WritesInto (·.EndsIn indexFile) := by
  have noting := note_onlySurveys .build .info
    s!"Added imports to {pages.1.length} page files ({pages.2.length} already done)"
  exact .bind (noting.isSilent.writesInto _) fun _ =>
    .bind (writeIndexes_writesInto component root) fun _ => trivial

theorem completeAndIndex_writesInto (pages : List Path) :
    (completePages pages >>= indexAfter root ⟨some extension, some indexFile⟩).WritesInto
      fun path => path ∈ pages ∨ path.EndsIn indexFile := by
  refine .bind (completePages_writesInto fun _ => .inl) fun answer => ?_
  have indexing := indexAfter_writesInto component root extension answer
  exact indexing.mono fun request writes write written => .inr (writes write written)

end Task

namespace Memory

variable {extension indexFile : String}

section Steps

variable (component : IsComponent indexFile) (root : Path)

/-- The indexes do not depend on which pages were completed by the run itself. -/
theorem indexAfter_agrees {pages others : List Path × List Path}
    (same : Task.SamePages pages others) (layout : Layout) (memory : Memory) :
    ((Task.indexAfter root layout pages).run (handle Denial.nothing) memory).Agrees
      BuildReport.Agrees
      ((Task.indexAfter root layout others).run (handle Denial.nothing) memory) := by
  have noted (first second : String) :
      ((Task.note .build .info first).run (handle Denial.nothing) memory).Agrees Eq
        ((Task.note .build .info second).run (handle Denial.nothing) memory) :=
    ⟨rfl, .ok rfl⟩
  unfold Task.indexAfter
  refine Program.agrees_bind (noted _ _) fun _ _ left _ => ?_
  exact Program.agrees_bind_self fun files state => ⟨rfl, .ok ⟨rfl, rfl, same⟩⟩

include component

theorem indexAfter_resumesFrom (pages : List Path × List Path) (memory : Memory) :
    (Task.indexAfter root ⟨some extension, some indexFile⟩ pages).ResumesFrom
      (handle Denial.nothing) BuildReport.Agrees memory := by
  have noting := Task.note_onlySurveys .build .info
    s!"Added imports to {pages.1.length} page files ({pages.2.length} already done)"
  refine .bind_eq BuildReport.Agrees.trans .refl (noting.resumesFrom _ memory) ?_ ?_
  · exact fun _ reached _ _ => ⟨(), rfl, rfl, rfl⟩
  · intro _ _
    refine (writeIndexes_resumesFrom component root memory).map BuildReport.Agrees.trans .refl ?_
    rintro files _ rfl
    exact .refl _

theorem completeAndIndex_resumesFrom {layout : Layout} {tree : BuildTree}
    (laidOut : tree.IsLaidOut layout) (indexSet : layout.indexFile = some indexFile)
    (memory : Memory) :
    (Task.completePages tree.memberPaths >>=
      Task.indexAfter root ⟨some extension, some indexFile⟩).ResumesFrom
        (handle Denial.nothing) BuildReport.Agrees memory := by
  refine .bind BuildReport.Agrees.trans (completePages_resumesFrom tree.memberPaths memory) ?_ ?_ ?_
  · exact fun pages others left same => indexAfter_agrees root same _ left
  · intro answer reached succeeded passes
    have hasBlock : ∀ page ∈ tree.memberPaths, reached.HasBlock page := by
      intro page listed
      have written := Task.indexAfter_writesInto component root extension answer
      have kept := find?_passed written passes (laidOut.not_endsIn indexSet listed)
      exact (hasBlock_after_completePages succeeded page listed).later (.inl kept)
    obtain ⟨result, state⟩ := run_completePages_of_hasBlock hasBlock
    exact ⟨_, result, state, samePages_of_completePages succeeded⟩
  · exact fun answer _ => indexAfter_resumesFrom component root answer _

/-- A build can be done in several attempts. -/
theorem buildTree_resumesFrom (memory : Memory) :
    (Task.buildTree root ⟨some extension, some indexFile⟩).ResumesFrom
      (handle Denial.nothing) BuildReport.Agrees memory := by
  have reading := Task.readTree_onlySurveys root ⟨some extension, some indexFile⟩
  rw [Task.buildTree_eq]
  refine .bind_eq BuildReport.Agrees.trans .refl (reading.resumesFrom _ memory) ?_ ?_
  · -- Whatever the rest of the build passes, the tree is found again.
    intro tree reached succeeded passes
    rw [reading.state_eq] at passes
    have writes := Task.completeAndIndex_writesInto component root extension tree.memberPaths
    have touches : Task.WritesInto _ _ := .bind
      (.ofExcept (Naming.asFailure (validateGroups tree.groups))) fun _ => writes
    exact readTree_settledAt (survey_kept rfl touches (survey_of_read succeeded) passes)
  · intro tree succeeded
    rw [reading.state_eq]
    cases Naming.asFailure (validateGroups tree.groups) with
    | error failure => exact .of_still .refl fun _ passes => passes
    | ok _ =>
        have laidOut := survey_isLaidOut (survey_of_read succeeded)
        exact completeAndIndex_resumesFrom component root laidOut rfl memory

end Steps

/-- What some attempts at a task make of a memory.  Each attempt has refusals of its own, which may
change with every request, so it can be cut short anywhere. -/
def afterAttempts {α : Type} (task : Task α) (memory : Memory) : List (Nat → Denial) → Memory
  | [] => memory
  | denials :: later =>
      let attempt := task.run (Handler.inTurn fun turn => handle (denials turn)) (0, memory)
      afterAttempts task attempt.state.2 later

theorem passes_attempt {α : Type} (task : Task α) (memory : Memory) (denials : Nat → Denial) :
    task.Passes (handle Denial.nothing) memory
      (task.run (Handler.inTurn fun turn => handle (denials turn)) (0, memory)).state.2 :=
  Program.passes_interrupted (fun turn => handle_curbs (denials turn)) 0 memory

/-- A task that resumes from everywhere ends the same way after any attempts. -/
theorem agrees_afterAttempts {α : Type} {alike : α → α → Prop} {task : Task α}
    (transitive : ∀ value other last, alike value other → alike other last → alike value last)
    (reflexive : ∀ value, alike value value)
    (resumes : ∀ memory, task.ResumesFrom (handle Denial.nothing) alike memory)
    (memory : Memory) (attempts : List (Nat → Denial)) :
    (task.run (handle Denial.nothing) memory).Agrees alike
      (task.run (handle Denial.nothing) (memory.afterAttempts task attempts)) := by
  induction attempts generalizing memory with
  | nil => exact .refl reflexive _
  | cons denials later ih =>
      have resumed := resumes memory _ (passes_attempt task memory denials)
      exact resumed.trans transitive (ih _)

/-- Apart from the indexes, a build does nothing but complete pages that have no block. -/
theorem atMostCompleted_of_passes_buildTree {denied : Denial} {indexFile : String}
    (component : IsComponent indexFile) {root : Path} {memory left : Memory}
    (passes : (Task.buildTree root ⟨some extension, some indexFile⟩).Passes
      (handle denied) memory left) {path : Path} (notIndex : ¬ path.EndsIn indexFile) :
    memory.AtMostCompleted left path := by
  have reading := Task.readTree_onlySurveys root ⟨some extension, some indexFile⟩
  rw [Task.buildTree_eq] at passes
  rcases Program.passes_bind passes with first | ⟨tree, -, checking⟩
  · rw [reading.passes_eq first]
    exact .refl memory path
  · rw [reading.state_eq] at checking
    cases checked : Naming.asFailure (validateGroups tree.groups) with
    | error failure =>
        rw [checked] at checking
        obtain rfl : left = memory := checking
        exact .refl left path
    | ok _ =>
        rw [checked, Program.ofExcept_ok, Program.done_bind] at checking
        rcases Program.passes_bind checking with completing | ⟨answer, -, indexing⟩
        · exact atMostCompleted_of_passes completing path
        · have completed := atMostCompleted_of_passes
            (Program.passes_end (handle denied) (Task.completePages tree.memberPaths) memory) path
          have writes := Task.indexAfter_writesInto component root extension answer
          exact completed.trans (.inl (find?_passed writes indexing notIndex))

theorem atMostCompleted_afterAttempts {indexFile : String} (component : IsComponent indexFile)
    (root : Path) (memory : Memory) (attempts : List (Nat → Denial)) {path : Path}
    (notIndex : ¬ path.EndsIn indexFile) :
    memory.AtMostCompleted
      (memory.afterAttempts (Task.buildTree root ⟨some extension, some indexFile⟩) attempts)
      path := by
  induction attempts generalizing memory with
  | nil => exact .refl memory path
  | cons denials later ih =>
      have passes := passes_attempt (Task.buildTree root ⟨some extension, some indexFile⟩)
        memory denials
      exact (atMostCompleted_of_passes_buildTree component passes notIndex).trans (ih _)

/-- After any attempts, each cut short somewhere or not, a build that is not hindered leaves the
same memory as without them.  It fails in the same way, or reports the same indexes and pages.  No
page is completed twice on the way. -/
theorem build_after_attempts {indexFile : String} (component : IsComponent indexFile)
    (directory extension : String) (environment : Option String) (given : Option Path)
    (memory : Memory) (attempts : List (Nat → Denial)) :
    let task := Task.build (.ofTexts directory extension indexFile) environment given
    let left := memory.afterAttempts task attempts
    let direct := task.run (handle Denial.nothing) memory
    let recovered := task.run (handle Denial.nothing) left
    recovered.state = direct.state ∧
      ResultsAgree BuildReport.Agrees direct.result recovered.result ∧
      ∀ path, ¬ path.EndsIn indexFile →
        memory.AtMostCompleted left path ∧ memory.AtMostCompleted recovered.state path := by
  intro task left direct recovered
  obtain ⟨root, resolved⟩ := Settings.exists_root_ofTexts directory extension indexFile
    environment given
  have same : task = Task.buildTree root ⟨some extension, some indexFile⟩ :=
    Task.build_eq_buildTree resolved
  have resumes : ∀ start, task.ResumesFrom (handle Denial.nothing) BuildReport.Agrees start := by
    rw [same]
    exact buildTree_resumesFrom component root
  have agrees := agrees_afterAttempts BuildReport.Agrees.trans .refl resumes memory attempts
  refine ⟨agrees.state.symm, agrees.result, fun path notIndex => ?_⟩
  have before : memory.AtMostCompleted left path := by
    simp only [left]
    rw [same]
    exact atMostCompleted_afterAttempts component root memory attempts notIndex
  have passes := Program.passes_end (handle Denial.nothing) task left
  rw [same] at passes
  have step := atMostCompleted_of_passes_buildTree component passes notIndex
  rw [← same] at step
  exact ⟨before, before.trans step⟩

theorem build_after_two_attempts :
    let memory := ofFiles [("build/en/Intro.js", "<Note/>"), ("build/fr/Intro.js", "<p/>")]
    let task := Task.build (.ofTexts "" ".js" "index.js") none none
    let left := memory.afterAttempts task
      [fun _ => Denial.nothing.alsoDeny .writeText (Path.ofString "build/fr/Intro.js"),
        fun turn => if turn < 17 then Denial.nothing else Denial.nothing.readOnly]
    left.files.map (·.1) = ["build/en/Intro.js", "build/fr/Intro.js", "build/index.js"] ∧
      (task.run (handle Denial.nothing) left).state =
        (task.run (handle Denial.nothing) memory).state := by
  intro memory task left
  have halfDone : left.files.map (·.1) =
      ["build/en/Intro.js", "build/fr/Intro.js", "build/index.js"] := by decide +kernel
  have component : IsComponent "index.js" := by decide
  exact ⟨halfDone, (build_after_attempts component "" ".js" none none memory _).1⟩

end Memory

end PageLinker
