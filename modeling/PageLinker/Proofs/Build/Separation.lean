import Mathlib.Data.List.Pairwise
import PageLinker.Proofs.Build.Effects
import PageLinker.Proofs.Program.Yielding

/-!
# Indexes apart from pages

A page stands two steps below the root and is not called like the index, but what the index is
called says where it stands only if that is a proper name.  With a proper name, or with one that
leads past the level of the pages, no index is ever taken for a page, however often the tree is
built.
-/

namespace PageLinker

namespace Path

theorem steps_join_of_here {text : String} (relative : (ofString text).anchor = .here)
    (path : Path) : (path.join text).steps = path.steps ++ (ofString text).components := by
  simp [join, append, relative, steps]

theorem join_of_anchored {text : String} (anchored : (ofString text).anchor ≠ .here)
    (path : Path) : path.join text = ofString text := by
  rw [join, append]
  split
  · next relative => exact absurd relative anchored
  · rfl

/-- What the text names does not lie two steps below the root, whether it is looked for from the
root or from one step below. -/
def LeadsPast (root : Path) (text : String) : Prop :=
  ((ofString text).anchor = .here →
    (ofString text).components.length ≠ 1 ∧ (ofString text).components.length ≠ 2) ∧
  ((ofString text).anchor ≠ .here → (ofString text).steps.length ≠ root.steps.length + 2)

instance (root : Path) (text : String) : Decidable (root.LeadsPast text) :=
  inferInstanceAs (Decidable ((_ → _) ∧ (_ → _)))

theorem LeadsPast.length_ne {root directory : Path} {text : String}
    (leads : root.LeadsPast text)
    (near : directory.steps.length = root.steps.length ∨
      directory.steps.length = root.steps.length + 1) :
    (directory.join text).steps.length ≠ root.steps.length + 2 := by
  by_cases relative : (ofString text).anchor = .here
  · have lengths := leads.1 relative
    rw [steps_join_of_here relative, List.length_append]
    omega
  · rw [join_of_anchored relative]
    exact leads.2 relative

example : (ofString "build").LeadsPast "lists/of/index.js" ∧
    ¬ (ofString "build").LeadsPast "./Index.js" := by
  decide

end Path

namespace BuildReport

/-- The report tells of pages two steps below the root, none of them called like the index, and of
indexes that were looked for from the root or from one step below. -/
structure IsPlacedUnder (root : Path) (indexFile : String) (report : BuildReport) : Prop where
  pages : ∀ page ∈ report.pageFiles ++ report.skippedFiles, ∃ group filename,
    page.steps = root.steps ++ [group, filename] ∧ filename ≠ indexFile
  indexes : ∀ file ∈ report.indexFiles, ∃ directory : Path,
    file.path = directory.join indexFile ∧
      (directory.steps.length = root.steps.length ∨
        directory.steps.length = root.steps.length + 1)

/-- No index of the first report is a page of the second. -/
def IndexesApart (first second : BuildReport) : Prop :=
  ∀ file ∈ first.indexFiles, file.path ∉ second.pageFiles ++ second.skippedFiles

theorem IsPlacedUnder.indexesApart {root : Path} {indexFile : String}
    {first second : BuildReport} (placed : first.IsPlacedUnder root indexFile)
    (otherPlaced : second.IsPlacedUnder root indexFile)
    (named : IsComponent indexFile ∨ root.LeadsPast indexFile) : first.IndexesApart second := by
  intro file written listed
  obtain ⟨directory, place, near⟩ := placed.indexes file written
  obtain ⟨group, filename, steps, differ⟩ := otherPlaced.pages file.path listed
  rw [place] at steps
  -- A proper name is the last step of its index, and any other name is on another level.
  rcases named with component | leads
  · rw [directory.steps_join component] at steps
    have last := congrArg List.getLast? steps
    exact differ (by simpa using last.symm)
  · refine leads.length_ne near ?_
    rw [steps, List.length_append]
    rfl

end BuildReport

namespace BuildTree

/-- A build of a tree tells of pages and indexes where the tree has them. -/
theorem IsLaidOut.isPlacedUnder {tree : BuildTree} {layout : Layout} {indexFile : String}
    (laidOut : tree.IsLaidOut layout) (indexSet : layout.indexFile = some indexFile)
    (completed : Path → Bool) :
    BuildReport.IsPlacedUnder tree.root indexFile ⟨tree.root, tree.memberPaths.filter completed,
      tree.memberPaths.filter (!completed ·), tree.indexes indexFile⟩ where
  pages := by
    intro page listed
    have inTree := (List.filter_append_perm completed tree.memberPaths).mem_iff.mp listed
    obtain ⟨group, inGroups, member, isMember, steps⟩ := laidOut.steps_of_mem_memberPaths inTree
    refine ⟨group.name, member.filename, steps, ?_⟩
    rintro rfl
    have notIndex := laidOut.not_index group inGroups member isMember
    simp [Layout.isIndex, indexSet] at notIndex
  indexes := by
    intro file listed
    rcases List.mem_cons.mp listed with rfl | inGroups
    · exact ⟨tree.root, rfl, .inl rfl⟩
    · obtain ⟨group, isGroup, rfl⟩ := List.mem_map.mp inGroups
      refine ⟨group.path, rfl, .inr ?_⟩
      rw [laidOut.group_steps group isGroup, List.length_append]
      rfl

end BuildTree

namespace Memory

variable {directory extension indexFile : String} {environment : Option String}
  {given : Option Path} {root : Path}

theorem isPlacedUnder_of_build {denied : Denial} {memory : Memory} {report : BuildReport}
    (resolved : (Settings.ofTexts directory extension indexFile).root environment given = .ok root)
    (succeeded : ((Task.build (.ofTexts directory extension indexFile) environment given).run
      (handle denied) memory).result = .ok report) : report.IsPlacedUnder root indexFile := by
  rw [Task.build_eq_buildTree resolved] at succeeded
  obtain ⟨tree, read, rfl, -, -⟩ := buildTree_effect succeeded
  have found := survey_of_read read
  obtain rfl := survey_root found
  exact (survey_isLaidOut found).isPlacedUnder rfl memory.lacksBlock

/-- Builds that succeed one after the other, each where other accesses may be denied. -/
inductive BuildsInTurn (task : Task BuildReport) : Memory → List BuildReport → Memory → Prop
  | nothing (memory : Memory) : BuildsInTurn task memory [] memory
  | next {denied : Denial} {memory between left : Memory} {report : BuildReport}
      {reports : List BuildReport} (first : task.Yields (handle denied) memory report between)
      (later : BuildsInTurn task between reports left) :
      BuildsInTurn task memory (report :: reports) left

theorem BuildsInTurn.forall_reports {task : Task BuildReport} {memory left : Memory}
    {reports : List BuildReport} {holds : BuildReport → Prop}
    (each : ∀ {denied : Denial} {memory : Memory} {report : BuildReport},
      (task.run (handle denied) memory).result = .ok report → holds report)
    (builds : BuildsInTurn task memory reports left) : ∀ report ∈ reports, holds report := by
  induction builds with
  | nothing memory => simp
  | next first later ih => exact List.forall_mem_cons.mpr ⟨each first.1, ih⟩

/-- However often the tree is built, nothing that a build wrote as an index is a page of the same
build or of a later one. -/
theorem indexes_apart_from_pages {memory left : Memory} {reports : List BuildReport}
    (resolved : (Settings.ofTexts directory extension indexFile).root environment given = .ok root)
    (named : IsComponent indexFile ∨ root.LeadsPast indexFile)
    (builds : BuildsInTurn (Task.build (.ofTexts directory extension indexFile) environment given)
      memory reports left) :
    (∀ report ∈ reports, report.IndexesApart report) ∧
      reports.Pairwise BuildReport.IndexesApart := by
  have placed : ∀ report ∈ reports, report.IsPlacedUnder root indexFile :=
    builds.forall_reports (isPlacedUnder_of_build resolved)
  have apart : ∀ first ∈ reports, ∀ second ∈ reports, first.IndexesApart second :=
    fun first listed second also => (placed first listed).indexesApart (placed second also) named
  exact ⟨fun report listed => apart report listed report listed,
    List.pairwise_of_forall_mem_list apart⟩

theorem indexes_apart_from_pages_of_two :
    let memory := ofFiles [("build/en/Intro.js", "<p/>")]
    let task := Task.build (.ofTexts "" ".js" "index.js") none none
    let first := task.run (handle Denial.nothing) memory
    let second := task.run (handle Denial.nothing) first.state
    ∃ report later, first.result = .ok report ∧ second.result = .ok later ∧
      report.indexFiles.map (·.path) =
        [Path.ofString "build/index.js", Path.ofString "build/en/index.js"] ∧
      later.skippedFiles = [Path.ofString "build/en/Intro.js"] ∧ report.IndexesApart later := by
  intro memory task first second
  have indexes : first.result.map (·.indexFiles.map (·.path)) =
      .ok [Path.ofString "build/index.js", Path.ofString "build/en/index.js"] := by
    decide +kernel
  have skipped : second.result.map (·.skippedFiles) = .ok [Path.ofString "build/en/Intro.js"] := by
    decide +kernel
  obtain ⟨report, succeeded, written⟩ := except_map_eq_ok.mp indexes
  obtain ⟨later, laterSucceeded, pages⟩ := except_map_eq_ok.mp skipped
  have component : IsComponent "index.js" := by decide
  have builds : BuildsInTurn task memory [report, later] second.state :=
    .next (Program.yields_of_result succeeded) (.next (Program.yields_of_result laterSucceeded)
      (.nothing _))
  obtain ⟨-, apart⟩ := indexes_apart_from_pages rfl (.inl component) builds
  exact ⟨report, later, succeeded, laterSucceeded, written, pages,
    (List.pairwise_cons.mp apart).1 later (by simp)⟩

/-- An index that is called by another name than its own is taken for a page. -/
theorem index_taken_for_page :
    let memory := ofFiles [("build/en/Intro.js", "<p/>\n")]
    let task := Task.build (.ofTexts "" ".js" "./Index.js") none none
    let first := task.run (handle Denial.nothing) memory
    let second := task.run (handle Denial.nothing) first.state
    first.result.map (·.indexFiles.map (·.path)) =
        .ok [Path.ofString "build/Index.js", Path.ofString "build/en/Index.js"] ∧
      second.result.map (·.pageFiles) = .ok [Path.ofString "build/en/Index.js"] := by
  decide +kernel

end Memory

end PageLinker
