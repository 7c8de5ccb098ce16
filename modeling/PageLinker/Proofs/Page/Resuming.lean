import PageLinker.Proofs.Page.Completing

/-!
# Resuming the completion of pages

An interrupted completion has completed some pages and left the others.  Started again it leaves
the completed ones alone and goes on with the first of the others.
-/

namespace PageLinker

namespace Task

/-- The answers deal with the same pages, whether they were completed or left alone. -/
def SamePages (first second : List Path × List Path) : Prop :=
  (first.1 ++ first.2).Perm (second.1 ++ second.2)

theorem SamePages.withPage {first second : List Path × List Path} (same : SamePages first second)
    (page : Path) (completed other : Bool) :
    SamePages (withPage page completed first) (withPage page other second) := by
  have inFront (completed : Bool) (answer : List Path × List Path) :
      ((Task.withPage page completed answer).1 ++ (Task.withPage page completed answer).2).Perm
        (page :: (answer.1 ++ answer.2)) := by
    cases completed with
    | true => exact .refl _
    | false => exact List.perm_middle
  exact (inFront completed first).trans ((same.cons page).trans (inFront other second).symm)

end Task

namespace Memory

variable {memory left : Memory} {page : Path}

/-- Completing a page passes what it finds and, if the page has no block, what it leaves. -/
theorem passes_completePage {denied : Denial}
    (passes : (Task.completePage page).Passes (handle denied) memory left) :
    left = memory ∨ ∃ text, memory.read page = .ok text ∧
      ImportBlock.isPresent text = false ∧
        memory.write page.steps (ImportBlock.complete text) = .ok left := by
  rcases Program.passes_bind passes with reading | ⟨text, succeeded, after⟩
  · exact .inl (passes_eq_of_silent (Task.readText_isSilent page) reading)
  · rw [run_readText] at succeeded after
    cases answered : denied.guarded .readText page (memory.read page) with
    | error failure => simp [answered] at succeeded
    | ok found =>
        obtain rfl : found = text := by simpa [answered] using succeeded
        simp only [answered] at after
        cases present : ImportBlock.isPresent found with
        | true =>
            rw [present, if_pos rfl] at after
            exact .inl after
        | false =>
            rw [present, if_neg Bool.false_ne_true] at after
            have silent : (pure true : Task Bool).IsSilent := trivial
            refine (passes_writeText_bind silent after).imp_right fun written => ?_
            exact ⟨found, (guarded_eq_ok.mp answered).2, present, written⟩

/-- What stands at the place is unchanged, or it was a page without a block and is completed. -/
def AtMostCompleted (memory left : Memory) (path : Path) : Prop :=
  left.find? path.steps = memory.find? path.steps ∨
    ∃ text, memory.find? path.steps = some (.leaf text) ∧
      ImportBlock.isPresent text = false ∧
        left.find? path.steps = some (.leaf (ImportBlock.complete text))

namespace AtMostCompleted

variable {between : Memory} {path : Path}

theorem refl (memory : Memory) (path : Path) : memory.AtMostCompleted memory path :=
  .inl rfl

theorem unchanged_of_present {text : String} (step : memory.AtMostCompleted left path)
    (found : memory.find? path.steps = some (.leaf text)) (present : ImportBlock.isPresent text) :
    left.find? path.steps = some (.leaf text) := by
  rcases step with same | ⟨other, standing, absent, -⟩
  · exact same.trans found
  · obtain rfl : other = text := by simpa [standing] using found
    simp [present] at absent

theorem trans (first : memory.AtMostCompleted between path)
    (second : between.AtMostCompleted left path) : memory.AtMostCompleted left path := by
  rcases first with same | ⟨text, found, absent, completed⟩
  · rw [AtMostCompleted, ← same]
    exact second
  · -- The page has its block from now on, so the second step leaves it alone.
    have present := ImportBlock.isPresent_complete text
    exact .inr ⟨text, found, absent, second.unchanged_of_present completed present⟩

end AtMostCompleted

theorem atMostCompleted_of_passes_completePage {denied : Denial}
    (passes : (Task.completePage page).Passes (handle denied) memory left) (path : Path) :
    memory.AtMostCompleted left path := by
  rcases passes_completePage passes with rfl | ⟨text, found, absent, written⟩
  · exact .refl left path
  · by_cases here : path = page
    · subst here
      refine .inr ⟨text, read_eq_ok_iff.mp found, absent, ?_⟩
      rw [Catalog.find?_write written, if_pos rfl]
    · refine .inl ?_
      rw [Catalog.find?_write written, if_neg fun same => here (Path.steps_injective same)]

/-- However often a page is listed and wherever a run is cut short, it is completed once at most. -/
theorem atMostCompleted_of_passes {denied : Denial} {pages : List Path}
    (passes : (Task.completePages pages).Passes (handle denied) memory left) (path : Path) :
    memory.AtMostCompleted left path := by
  induction pages generalizing memory with
  | nil =>
      obtain rfl : left = memory := passes
      exact .refl left path
  | cons page rest ih =>
      rw [Task.completePages_cons] at passes
      rcases Program.passes_bind passes with first | ⟨completed, -, later⟩
      · exact atMostCompleted_of_passes_completePage first path
      · have throughFirst := Program.passes_end (handle denied) (Task.completePage page) memory
        exact (atMostCompleted_of_passes_completePage throughFirst path).trans
          (ih (Program.passes_of_bind_pure later))

/-- The page has its import block. -/
def HasBlock (memory : Memory) (page : Path) : Prop :=
  ∃ text, memory.find? page.steps = some (.leaf text) ∧ ImportBlock.isPresent text = true

theorem HasBlock.later (hasBlock : memory.HasBlock page)
    (step : memory.AtMostCompleted left page) : left.HasBlock page := by
  obtain ⟨text, found, present⟩ := hasBlock
  exact ⟨text, step.unchanged_of_present found present, present⟩

theorem hasBlock_of_write {text : String}
    (written : memory.write page.steps (ImportBlock.complete text) = .ok left) :
    left.HasBlock page := by
  refine ⟨_, ?_, ImportBlock.isPresent_complete text⟩
  rw [Catalog.find?_write written, if_pos rfl]

theorem hasBlock_after_completePage {denied : Denial} {completed : Bool}
    (succeeded : ((Task.completePage page).run (handle denied) memory).result = .ok completed) :
    ((Task.completePage page).run (handle denied) memory).state.HasBlock page := by
  rcases run_completePage_cases denied memory page with
    ⟨refusal, failed, -⟩ | ⟨text, found, ⟨present, -, state, -⟩ | ⟨-, -, written, -⟩⟩
  · simp [failed] at succeeded
  · rw [state]
    exact ⟨text, read_eq_ok_iff.mp found, present⟩
  · exact hasBlock_of_write written

theorem hasBlock_after_completePages {denied : Denial} {pages : List Path}
    {answer : List Path × List Path}
    (succeeded : ((Task.completePages pages).run (handle denied) memory).result = .ok answer) :
    ∀ page ∈ pages,
      ((Task.completePages pages).run (handle denied) memory).state.HasBlock page := by
  induction pages generalizing memory answer with
  | nil => simp
  | cons page rest ih =>
      rw [Task.completePages_cons] at succeeded ⊢
      obtain ⟨completed, result, others⟩ := Program.result_bind_eq_ok.mp succeeded
      obtain ⟨later, found, -⟩ := Program.result_bind_eq_ok.mp others
      have first := hasBlock_after_completePage result
      rw [Program.run_bind_of_ok result, Program.run_bind_pure]
      generalize ((Task.completePage page).run (handle denied) memory) = outcome at *
      have passes := Program.passes_end (handle denied) (Task.completePages rest) outcome.state
      refine List.forall_mem_cons.mpr ⟨?_, ih found⟩
      exact first.later (atMostCompleted_of_passes passes page)

theorem samePages_of_completePages {denied : Denial} {pages : List Path}
    {answer : List Path × List Path}
    (succeeded : ((Task.completePages pages).run (handle denied) memory).result = .ok answer) :
    Task.SamePages answer ([], pages) := by
  induction pages generalizing memory answer with
  | nil =>
      cases succeeded
      exact .refl _
  | cons page rest ih =>
      rw [Task.completePages_cons] at succeeded
      obtain ⟨completed, -, others⟩ := Program.result_bind_eq_ok.mp succeeded
      obtain ⟨later, found, made⟩ := Program.result_bind_eq_ok.mp others
      cases made
      exact (ih found).withPage page completed false

theorem run_completePage_of_hasBlock (hasBlock : memory.HasBlock page) :
    (Task.completePage page).run (handle Denial.nothing) memory =
      ⟨.ok false, memory, [.readText page]⟩ := by
  obtain ⟨text, found, present⟩ := hasBlock
  exact run_completePage_of_present rfl (read_eq_ok_iff.mpr found) present

/-- Where all pages have their block, nothing is left to do. -/
theorem run_completePages_of_hasBlock {pages : List Path}
    (hasBlock : ∀ page ∈ pages, memory.HasBlock page) :
    let outcome := (Task.completePages pages).run (handle Denial.nothing) memory
    outcome.result = .ok ([], pages) ∧ outcome.state = memory := by
  induction pages with
  | nil => exact ⟨rfl, rfl⟩
  | cons page rest ih =>
      obtain ⟨first, others⟩ := List.forall_mem_cons.mp hasBlock
      obtain ⟨result, state⟩ := ih others
      have leaves := run_completePage_of_hasBlock first
      have left := congrArg Outcome.result leaves
      simp only [Task.completePages_cons, Program.run_bind_of_ok left, leaves,
        Program.run_bind_pure, Outcome.precededBy_result, Outcome.precededBy_state,
        Outcome.map_result, Outcome.map_state, result, state]
      exact ⟨rfl, trivial⟩

theorem completePage_resumesFrom (memory : Memory) (page : Path) :
    (Task.completePage page).ResumesFrom (handle Denial.nothing) (fun _ _ => True) memory := by
  intro reached passes
  rcases passes_completePage passes with rfl | ⟨text, found, absent, written⟩
  · exact .refl (fun _ => trivial) _
  · have answered := run_completePage_of_absent
      (rfl : Denial.nothing .readText page = false) found absent
    rw [guarded_eq_ok.mpr ⟨rfl, written⟩] at answered
    rw [answered, run_completePage_of_hasBlock (hasBlock_of_write written)]
    exact ⟨rfl, .ok trivial⟩

/-- Pages can be completed in several attempts. -/
theorem completePages_resumesFrom (pages : List Path) (memory : Memory) :
    (Task.completePages pages).ResumesFrom (handle Denial.nothing) Task.SamePages memory := by
  induction pages generalizing memory with
  | nil => exact .of_still (fun _ => .refl _) fun _ passes => passes
  | cons page rest ih =>
      rw [Task.completePages_cons]
      refine .bind (fun _ _ _ => .trans) (completePage_resumesFrom memory page) ?_ ?_ ?_
      · intro completed other state _
        refine Program.agrees_bind_self fun later left => ?_
        exact ⟨rfl, .ok (Task.SamePages.withPage (.refl _) page completed other)⟩
      · intro completed reached succeeded passes
        have first := hasBlock_after_completePage succeeded
        have step := atMostCompleted_of_passes (Program.passes_of_bind_pure passes) page
        rw [Program.SettledAt, run_completePage_of_hasBlock (first.later step)]
        exact ⟨false, rfl, rfl, trivial⟩
      · intro completed _
        exact (ih _).map (fun _ _ _ => .trans) (fun _ => .refl _)
          fun _ _ same => same.withPage page completed completed

end Memory

end PageLinker
