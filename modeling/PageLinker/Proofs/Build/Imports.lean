import PageLinker.Proofs.Build.Reordering
import PageLinker.Proofs.Page.Imports

/-!
# Imports of built pages

A build completes the pages that do not open with a library line and leaves the others as they are.
So the pages that it completed have the imports that they need, and a page that it passed over has
them exactly if it had them before.
-/

namespace PageLinker

namespace Memory

variable {memory left : Memory} {indexFile : String}

section Pages

variable {layout : Layout} {tree : BuildTree} (laidOut : tree.IsLaidOut layout)
  (indexSet : layout.indexFile = some indexFile) (component : IsComponent indexFile)
  (done : memory.writeAll ((tree.memberPaths.filter memory.lacksBlock).map memory.completion ++
    (tree.indexes indexFile).map IndexFile.write) = .ok left)
include laidOut indexSet component done

/-- A page without a block is completed, and no index takes its place. -/
theorem read_completed_page {page : Path}
    (completed : page ∈ tree.memberPaths.filter memory.lacksBlock) :
    left.read page = .ok (ImportBlock.complete (memory.textAt page)) := by
  have distinct := laidOut.build_writes_nodup indexSet component memory
  have written : memory.completion page ∈
      (tree.memberPaths.filter memory.lacksBlock).map memory.completion ++
        (tree.indexes indexFile).map IndexFile.write :=
    List.mem_append_left _ (List.mem_map_of_mem completed)
  exact read_eq_ok_iff.mpr (find?_writeAll_of_mem distinct done written)

/-- A page with a block is not written. -/
theorem find?_skipped_page {page : Path}
    (skipped : page ∈ tree.memberPaths.filter (!memory.lacksBlock ·)) :
    left.find? page.steps = memory.find? page.steps := by
  obtain ⟨listed, hasBlock⟩ := List.mem_filter.mp skipped
  refine find?_writeAll_of_untouched done fun write written place => ?_
  obtain rfl := Path.steps_injective place
  rcases List.mem_append.mp written with pageWrite | indexWrite
  · obtain ⟨other, completed, rfl⟩ := List.mem_map.mp pageWrite
    have lacksBlock : memory.lacksBlock other = true := (List.mem_filter.mp completed).2
    rw [completion, lacksBlock] at hasBlock
    cases hasBlock
  · obtain ⟨file, isIndex, rfl⟩ := List.mem_map.mp indexWrite
    exact laidOut.not_endsIn indexSet listed
      (BuildTree.endsIn_of_mem_indexes component tree isIndex)

end Pages

variable {denied : Denial} {directory extension : String} {environment : Option String}
  {given : Option Path}

/-- After a build that succeeds, the pages that it completed have the imports that they need.  The
pages that it passed over are as before, so they have them if they are the block of some text with
a text behind it that refers to nothing else. -/
theorem build_leaves_imports (component : IsComponent indexFile) {report : BuildReport}
    (succeeded : ((Task.build (.ofTexts directory extension indexFile) environment given).run
      (handle denied) memory).result = .ok report) :
    let settings := Settings.ofTexts directory extension indexFile
    let outcome := (Task.build settings environment given).run (handle denied) memory
    ∃ tree, ((Task.readTree report.root settings.layout).run
        (handle denied) memory).result = .ok tree ∧
      (report.pageFiles ++ report.skippedFiles).Perm tree.memberPaths ∧
      (∀ page ∈ report.pageFiles, ∃ text, outcome.state.read page = .ok text ∧
        ImportBlock.HasImports text) ∧
      ∀ page ∈ report.skippedFiles, ∃ text, memory.read page = .ok text ∧
        ImportBlock.isPresent text = true ∧ outcome.state.read page = .ok text ∧
        ∀ original edited, text = ImportBlock.block original ++ edited →
          (∀ name ∈ Tag.references edited, name ∈ Tag.references original) →
          ImportBlock.HasImports text := by
  intro settings outcome
  obtain ⟨root, resolved⟩ := Settings.exists_root_ofTexts directory extension indexFile
    environment given
  have same : Task.build settings environment given =
      Task.buildTree root ⟨some extension, some indexFile⟩ := Task.build_eq_buildTree resolved
  rw [same] at succeeded
  obtain ⟨tree, found, rfl, pages, done⟩ := buildTree_effect succeeded
  rw [← same] at done
  have laidOut := survey_isLaidOut (survey_of_read found)
  refine ⟨tree, found, List.filter_append_perm _ _, fun page completed => ?_,
    fun page skipped => ?_⟩
  · exact ⟨_, read_completed_page laidOut rfl component done completed,
      ImportBlock.hasImports_complete _⟩
  · obtain ⟨listed, hasBlock⟩ := List.mem_filter.mp skipped
    have read := pages page listed
    have kept := find?_skipped_page laidOut rfl component done skipped
    refine ⟨memory.textAt page, read, ?_, (read_eq_of_find?_eq kept).mpr read, ?_⟩
    · simpa [lacksBlock] using hasBlock
    · intro original edited written within
      rw [written]
      exact ImportBlock.hasImports_block_append within

theorem build_leaves_imports_of_two :
    let memory := ofFiles [("build/en/Intro.js", "<Note/>"),
      ("build/fr/Intro.js", "import React from 'react'
<p/>")]
    let outcome := (Task.build (.ofTexts "" ".js" "index.js") none none).run
      (handle Denial.nothing) memory
    ∃ text, outcome.state.read (Path.ofString "build/en/Intro.js") = .ok text ∧
      ImportBlock.HasImports text := by
  intro memory outcome
  have split : outcome.result.map (·.pageFiles) = .ok [Path.ofString "build/en/Intro.js"] := by
    decide +kernel
  obtain ⟨report, succeeded, pages⟩ := except_map_eq_ok.mp split
  have component : IsComponent "index.js" := by decide
  obtain ⟨tree, -, -, completed, -⟩ := build_leaves_imports component succeeded
  exact completed _ (by simp [pages])

/-- A page that opens with a library line is passed over, whatever it refers to. -/
theorem build_passes_over_missing_imports :
    let memory := ofFiles [("build/en/Intro.js", "import React from 'react'
<Note/>
")]
    let outcome := (Task.build (.ofTexts "" ".js" "index.js") none none).run
      (handle Denial.nothing) memory
    let page := Path.ofString "build/en/Intro.js"
    outcome.result.map (·.skippedFiles) = .ok [page] ∧
      ¬ ImportBlock.HasImports (outcome.state.textAt page) := by
  decide +kernel

end Memory

end PageLinker
