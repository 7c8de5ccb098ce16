import PageLinker.Page.Completion
import PageLinker.Proofs.Memory.Effects
import PageLinker.Proofs.Program.Resumption

/-!
# Completing the pages of a build

A page is completed once at most: a completed page opens with a library line, so it is left alone
from then on.  Over distinct pages a run therefore writes each page that had no block, with the
block that its first text asks for, and an interrupted run can be resumed.
-/

namespace PageLinker

namespace ImportBlock

theorem opensWith_append (line rest : String) : opensWith line (line ++ "\n" ++ rest) = true := by
  have written : (line ++ "\n" ++ rest).toList = (line ++ "\n").toList ++ rest.toList :=
    String.toList_append
  rw [opensWith, List.isPrefixOf_iff_prefix, written]
  exact List.prefix_append _ _

theorem isPresent_complete (text : String) : isPresent (complete text) = true := by
  have opens (references : List String) (rest : String) :
      opensWith (header references) (Lines.terminated (lines references) ++ rest) = true := by
    rw [lines, Lines.terminated, String.append_assoc]
    exact opensWith_append _ _
  have opened := opens (Tag.references text) text
  rw [isPresent, complete, block, Bool.or_eq_true]
  rw [header] at opened
  split at opened
  · exact .inr opened
  · exact .inl opened

end ImportBlock

namespace Task

/-- The answer for some pages with one more page in front. -/
def withPage (page : Path) (completed : Bool) (later : List Path × List Path) :
    List Path × List Path :=
  if completed then (page :: later.1, later.2) else (later.1, page :: later.2)

theorem completePages_cons (page : Path) (rest : List Path) :
    completePages (page :: rest) =
      completePage page >>= fun completed =>
        completePages rest >>= fun later => pure (withPage page completed later) :=
  rfl

theorem withPage_filter (test : Path → Bool) (page : Path) (rest : List Path) :
    withPage page (test page) (rest.filter test, rest.filter (!test ·)) =
      ((page :: rest).filter test, (page :: rest).filter (!test ·)) := by
  cases result : test page <;> simp [withPage, result]

theorem completePage_writesInto {places : Path → Prop} {page : Path} (listed : places page) :
    (completePage page).WritesInto places := by
  refine .bind ((readText_isSilent page).writesInto places) fun text => ?_
  split
  · trivial
  · exact .bind (writeText_writesInto listed _) fun _ => trivial

theorem completePages_writesInto {places : Path → Prop} {pages : List Path}
    (listed : ∀ page ∈ pages, places page) : (completePages pages).WritesInto places := by
  induction pages with
  | nil => trivial
  | cons page rest ih =>
      obtain ⟨first, others⟩ := List.forall_mem_cons.mp listed
      exact .bind (completePage_writesInto first) fun _ => .bind (ih others) fun _ => trivial

end Task

namespace Memory

variable {denied : Denial} {memory left : Memory} {page : Path} {text : String}

/-- The text of a file.  Where there is none it is empty. -/
def textAt (memory : Memory) (path : Path) : String :=
  match memory.read path with
  | .ok text => text
  | .error _ => ""

/-- The page has no import block yet. -/
def lacksBlock (memory : Memory) (page : Path) : Bool :=
  !ImportBlock.isPresent (memory.textAt page)

theorem textAt_of_read (found : memory.read page = .ok text) : memory.textAt page = text := by
  rw [textAt, found]

theorem read_eq_of_find?_eq (same : left.find? page.steps = memory.find? page.steps) :
    left.read page = .ok text ↔ memory.read page = .ok text := by
  rw [read_eq_ok_iff, read_eq_ok_iff, same]

theorem run_completePage_of_read (granted : denied .readText page = false)
    (found : memory.read page = .ok text) :
    (Task.completePage page).run (handle denied) memory =
      ((if ImportBlock.isPresent text then pure false
        else do
          Task.writeText page (ImportBlock.complete text)
          pure true : Task Bool).run (handle denied) memory).precededBy
        [.readText page] := by
  have read := run_readText denied memory page
  rw [guarded_eq_ok.mpr ⟨granted, found⟩] at read
  rw [Task.completePage, Program.run_bind_of_ok (by rw [read]), read]

theorem run_completePage_of_present (granted : denied .readText page = false)
    (found : memory.read page = .ok text) (present : ImportBlock.isPresent text = true) :
    (Task.completePage page).run (handle denied) memory =
      ⟨.ok false, memory, [.readText page]⟩ := by
  rw [run_completePage_of_read granted found, if_pos present]
  rfl

theorem run_completePage_of_absent (granted : denied .readText page = false)
    (found : memory.read page = .ok text) (absent : ImportBlock.isPresent text = false) :
    (Task.completePage page).run (handle denied) memory =
      match denied.guarded .writeText page
        (memory.write page.steps (ImportBlock.complete text)) with
      | .ok written => ⟨.ok true, written,
          [.readText page, .writeText page (ImportBlock.complete text)]⟩
      | .error failure => ⟨.error failure, memory, [.readText page]⟩ := by
  have write := run_writeText denied memory page (ImportBlock.complete text)
  rw [run_completePage_of_read granted found, absent, if_neg Bool.false_ne_true]
  cases writing : denied.guarded .writeText page
      (memory.write page.steps (ImportBlock.complete text)) with
  | error failure =>
      rw [writing] at write
      rw [Program.run_bind_of_error (by rw [write]), write]
      rfl
  | ok written =>
      rw [writing] at write
      rw [Program.run_bind_of_ok (by rw [write]), write]
      rfl

/-- Completing a page is refused, or finds a block and leaves the page alone, or writes the page
with its block. -/
theorem run_completePage_cases (denied : Denial) (memory : Memory) (page : Path) :
    let outcome := (Task.completePage page).run (handle denied) memory
    (∃ refusal, outcome.result = .error (.refused refusal page) ∧ outcome.state = memory ∧
        outcome.writes = []) ∨
      ∃ text, memory.read page = .ok text ∧
        ((ImportBlock.isPresent text = true ∧ outcome.result = .ok false ∧
            outcome.state = memory ∧ outcome.writes = []) ∨
          (ImportBlock.isPresent text = false ∧ outcome.result = .ok true ∧
            memory.write page.steps (ImportBlock.complete text) = .ok outcome.state ∧
            outcome.writes = [(page, ImportBlock.complete text)])) := by
  cases reading : denied.guarded .readText page (memory.read page) with
  | error failure =>
      have read := run_readText denied memory page
      obtain ⟨refusal, rfl⟩ := guarded_eq_error reading
      rw [reading] at read
      rw [Task.completePage, Program.run_bind_of_error (by rw [read]), read]
      exact .inl ⟨refusal, rfl, rfl, rfl⟩
  | ok text =>
      obtain ⟨granted, found⟩ := guarded_eq_ok.mp reading
      cases present : ImportBlock.isPresent text with
      | true =>
          rw [run_completePage_of_present granted found present]
          exact .inr ⟨text, found, .inl ⟨present, rfl, rfl, rfl⟩⟩
      | false =>
          rw [run_completePage_of_absent granted found present]
          cases writing : denied.guarded .writeText page
              (memory.write page.steps (ImportBlock.complete text)) with
          | error failure =>
              obtain ⟨refusal, rfl⟩ := guarded_eq_error writing
              exact .inl ⟨refusal, rfl, rfl, rfl⟩
          | ok written =>
              exact .inr ⟨text, found, .inr ⟨present, rfl, (guarded_eq_ok.mp writing).2, rfl⟩⟩

/-- The write that completes a page of a memory. -/
def completion (memory : Memory) (page : Path) : Path × String :=
  (page, ImportBlock.complete (memory.textAt page))

theorem map_fst_completion (memory : Memory) (pages : List Path) :
    (pages.map memory.completion).map (·.1) = pages := by
  rw [List.map_map]
  exact List.map_id pages

theorem textAt_eq_of_find?_eq (same : left.find? page.steps = memory.find? page.steps) :
    left.textAt page = memory.textAt page := by
  rw [textAt, textAt, read, read, same]
  cases memory.find? page.steps with
  | none => rfl
  | some entry => cases entry <;> rfl

/-- A completion that is not refused writes the page if and only if it has no block. -/
theorem run_completePage (denied : Denial) (memory : Memory) (page : Path) :
    let outcome := (Task.completePage page).run (handle denied) memory
    (∃ refusal, outcome.result = .error (.refused refusal page) ∧ outcome.state = memory ∧
        outcome.writes = []) ∨
      (memory.read page = .ok (memory.textAt page) ∧
        outcome.result = .ok (memory.lacksBlock page) ∧ outcome.state.SameShape memory ∧
        outcome.writes = ([page].filter memory.lacksBlock).map memory.completion) := by
  rcases run_completePage_cases denied memory page with refused | ⟨text, found, step⟩
  · exact .inl refused
  · have first := textAt_of_read found
    rcases step with ⟨present, result, state, writes⟩ | ⟨absent, result, write, writes⟩
    · have complete : memory.lacksBlock page = false := by simp [lacksBlock, first, present]
      refine .inr ⟨first.symm ▸ found, complete ▸ result, ?_, ?_⟩
      · rw [state]
        exact .refl memory
      · simp [writes, complete]
    · have lacks : memory.lacksBlock page = true := by simp [lacksBlock, first, absent]
      refine .inr ⟨first.symm ▸ found, lacks ▸ result, ?_, ?_⟩
      · exact Catalog.sameShape_write (read_eq_ok_iff.mp found) write
      · simp [writes, lacks, completion, first]

theorem find?_after_completePage (denied : Denial) (memory : Memory) {other : Path}
    (differ : other ≠ page) :
    ((Task.completePage page).run (handle denied) memory).state.find? other.steps =
      memory.find? other.steps := by
  have writes : (Task.completePage page).WritesInto (· = page) := Task.completePage_writesInto rfl
  exact find?_passed writes (Program.passes_end (handle denied) _ memory) differ

section Unchanged

variable {pages : List Path} (unchanged : ∀ page ∈ pages, left.textAt page = memory.textAt page)
include unchanged

theorem filter_lacksBlock_congr : pages.filter left.lacksBlock = pages.filter memory.lacksBlock :=
  List.filter_congr fun page listed => by rw [lacksBlock, lacksBlock, unchanged page listed]

theorem filter_not_lacksBlock_congr :
    pages.filter (!left.lacksBlock ·) = pages.filter (!memory.lacksBlock ·) :=
  List.filter_congr fun page listed => by rw [lacksBlock, lacksBlock, unchanged page listed]

theorem completions_congr :
    (pages.filter left.lacksBlock).map left.completion =
      (pages.filter memory.lacksBlock).map memory.completion := by
  rw [filter_lacksBlock_congr unchanged]
  refine List.map_congr_left fun page listed => ?_
  rw [completion, completion, unchanged page (List.mem_filter.mp listed).1]

end Unchanged

/-- Over distinct pages, completing goes through some first pages, all of them unless a request is
refused.  It writes those that have no block, each with the block for its first text. -/
theorem run_completePages {pages : List Path} (distinct : pages.Nodup) (denied : Denial)
    (memory : Memory) :
    let outcome := (Task.completePages pages).run (handle denied) memory
    ∃ treated, treated <+: pages ∧
      (∀ page ∈ treated, memory.read page = .ok (memory.textAt page)) ∧
      outcome.writes = (treated.filter memory.lacksBlock).map memory.completion ∧
      outcome.state.SameShape memory ∧
      ((∃ refusal page, outcome.result = .error (.refused refusal page)) ∨
        (treated = pages ∧ outcome.result =
          .ok (pages.filter memory.lacksBlock, pages.filter (!memory.lacksBlock ·)))) := by
  induction pages generalizing memory with
  | nil => exact ⟨[], List.prefix_refl _, by simp, rfl, .refl memory, .inr ⟨rfl, rfl⟩⟩
  | cons page rest ih =>
      obtain ⟨notLater, distinctRest⟩ := List.nodup_cons.mp distinct
      rw [Task.completePages_cons]
      rcases run_completePage denied memory page with
        ⟨refusal, failed, state, writes⟩ | ⟨found, succeeded, shape, writes⟩
      · simp only [Program.result_bind_of_error failed, Program.state_bind_of_error failed,
          Program.writes_bind_of_error failed, state, writes]
        exact ⟨[], List.nil_prefix, by simp, rfl, .refl memory, .inl ⟨refusal, page, rfl⟩⟩
      · have elsewhere : ∀ other ∈ rest,
            ((Task.completePage page).run (handle denied) memory).state.find? other.steps =
              memory.find? other.steps := by
          intro other later
          exact find?_after_completePage denied memory fun same => notLater (same ▸ later)
        rw [Program.run_bind_of_ok succeeded, Program.run_bind_pure]
        generalize (Task.completePage page).run (handle denied) memory = first at *
        -- The later pages are told from the state after this one, where they are as at first.
        obtain ⟨treated, isPrefix, read, laterWrites, laterShape, ends⟩ :=
          ih distinctRest first.state
        have unchanged : ∀ other ∈ rest, first.state.textAt other = memory.textAt other :=
          fun other later => textAt_eq_of_find?_eq (elsewhere other later)
        refine ⟨page :: treated, List.cons_prefix_cons.mpr ⟨rfl, isPrefix⟩, ?_, ?_,
          laterShape.trans shape, ?_⟩
        · refine List.forall_mem_cons.mpr ⟨found, fun other listed => ?_⟩
          have later := isPrefix.subset listed
          rw [← unchanged other later]
          exact (read_eq_of_find?_eq (elsewhere other later)).mp (read other listed)
        · rw [Outcome.precededBy_writes, Outcome.map_writes, writes, laterWrites,
            completions_congr fun other listed => unchanged other (isPrefix.subset listed),
            ← List.map_append, ← List.filter_append, List.singleton_append]
        · rw [Outcome.precededBy_result, Outcome.map_result]
          rcases ends with ⟨refusal, place, failed⟩ | ⟨rfl, finished⟩
          · rw [failed]
            exact .inl ⟨refusal, place, rfl⟩
          · rw [finished, filter_lacksBlock_congr unchanged, filter_not_lacksBlock_congr unchanged]
            have together := Task.withPage_filter memory.lacksBlock page treated
            exact .inr ⟨rfl, congrArg Except.ok together⟩

end Memory

end PageLinker
