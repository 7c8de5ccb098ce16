import PageLinker.Proofs.Command.Printing
import PageLinker.Proofs.Disk.Completing

/-!
# Preview of completed files

A preview reads every file and prints what it would become, while the completion rewrites one file
before it reads the next one.  Over different files both come to the same texts, since a rewritten
file leaves every other one as it is.
-/

namespace PageLinker

namespace Disk

variable {disk : Disk} {path : Path} {text : String}

/-- What the file at the end of a path becomes when it is completed. -/
def completed (disk : Disk) (path : Path) : String :=
  ImportBlock.complete ((disk.readText path).toOption.getD "")

theorem readText_of_readBytes (stands : disk.readBytes path = .ok text.toUTF8) :
    disk.readText path = .ok (Lines.unified text) := by
  rw [readText, stands]
  exact decode_toUTF8 text

theorem completed_eq (stands : disk.readBytes path = .ok text.toUTF8) :
    disk.completed path = ImportBlock.complete (Lines.unified text) := by
  rw [completed, readText_of_readBytes stands]
  rfl

end Disk

namespace Command

open Console (Line)

variable {console : Console} {disk : Disk} {path : Path} {paths : List Path}

/-- The lines of a preview, given what each file becomes. -/
def previewLines (become : Path → String) (paths : List Path) : List Line :=
  paths.flatMap fun path => [previewTitle path, .verbatim (become path)]

theorem importFile_preview {text : String} (stands : disk.readBytes path = .ok text.toUTF8) :
    (importFile console true path).EndsWith console disk ()
      [previewTitle path, .verbatim (disk.completed path)] disk := by
  have reading : (Task.readText path).Yields Disk.handle disk (Lines.unified text) disk :=
    Task.readText_yields_iff.mpr (Disk.handle_readText.mpr
      ⟨Disk.readText_of_readBytes stands, rfl⟩)
  rw [Disk.completed_eq stands]
  exact (ConsoleScript.endsWith_printLines console disk [previewTitle path]).bind
    ((ConsoleScript.endsWith_lift (Script.prints_ofTask reading) console).bind
      (ConsoleScript.endsWith_printLines console disk [previewText (Lines.unified text)]))

theorem importFiles_preview
    (texts : ∀ path ∈ paths, ∃ text : String, disk.readBytes path = .ok text.toUTF8) :
    (importFiles console true paths).EndsWith console disk ()
      (previewLines disk.completed paths) disk := by
  induction paths with
  | nil => exact ConsoleScript.endsWith_pure console disk ()
  | cons path rest ih =>
      obtain ⟨⟨text, stands⟩, textsRest⟩ := List.forall_mem_cons.mp texts
      exact (importFile_preview stands).bind (ih textsRest)

/-- Completing a file gives it what it should become, and leaves other files alone. -/
theorem importFile_completion {text : String} (stands : disk.readBytes path = .ok text.toUTF8) :
    ∃ left, (importFile console false path).EndsWith console disk () [pathLine path] left ∧
      left.openFile = disk.openFile ∧
      left.readBytes path = .ok (disk.completed path).toUTF8 ∧
      ∀ other, disk.openFile other ≠ disk.openFile path →
        left.readBytes other = disk.readBytes other := by
  obtain ⟨number, opened, holds⟩ := except_map_eq_ok.mp stands
  have isText : String.fromUTF8? (disk.bytes number) = some text := by
    rw [holds, Disk.fromUTF8?_toUTF8]
  have completes := Disk.completeFile_yields opened isText
  rw [← Disk.completed_eq stands] at completes
  refine ⟨_, ?_, Disk.openFile_refill disk number _, Disk.readBytes_refill opened _,
    fun other elsewhere => Disk.readBytes_refill_of_ne (opened ▸ elsewhere) _⟩
  exact (ConsoleScript.endsWith_lift (Script.prints_ofTask completes) console).bind
    (ConsoleScript.endsWith_printLines console _ [pathLine path])

/-- Completing different files leaves other files alone.  If the console refuses no path, it leaves
in each file what that would become on the disk as it was before. -/
theorem importFiles_completion
    (texts : ∀ path ∈ paths, ∃ text : String, disk.readBytes path = .ok text.toUTF8)
    (apart : (paths.map disk.openFile).Nodup) :
    ∃ left, (importFiles console false paths).EndsWith console disk () (paths.map pathLine) left ∧
      (∀ other, disk.openFile other ∉ paths.map disk.openFile →
        left.readBytes other = disk.readBytes other) ∧
      ((console.renderAll (paths.map pathLine)).2 = none →
        ∀ path ∈ paths, left.readBytes path = .ok (disk.completed path).toUTF8) := by
  induction paths generalizing disk with
  | nil => exact ⟨disk, ConsoleScript.endsWith_pure console disk (), fun _ _ => rfl, by simp⟩
  | cons path rest ih =>
      obtain ⟨⟨text, stands⟩, textsRest⟩ := List.forall_mem_cons.mp texts
      rw [List.map_cons, List.nodup_cons] at apart
      obtain ⟨between, first, sameFiles, own, keptFirst⟩ :
          ∃ between, (importFile console false path).EndsWith console disk () [pathLine path]
            between ∧ _ := importFile_completion stands
      cases troubled : (console.renderAll [pathLine path]).2 with
      | some trouble =>
          refine ⟨between, first.bind_of_some troubled _ _ (), fun other elsewhere => ?_,
            fun fine => ?_⟩
          · exact keptFirst other fun same => elsewhere (same ▸ List.mem_cons_self)
          · have stopped : (console.renderAll ((path :: rest).map pathLine)).2 = some trouble :=
              (congrArg Prod.snd (Console.renderAll_append_of_some troubled)).trans troubled
            cases fine.symm.trans stopped
      | none =>
          have sameBytes : ∀ other ∈ rest, between.readBytes other = disk.readBytes other := by
            intro other listed
            exact keptFirst other fun same => apart.1 (same ▸ List.mem_map_of_mem listed)
          have textsBetween : ∀ other ∈ rest, ∃ text : String,
              between.readBytes other = .ok text.toUTF8 := by
            intro other listed
            rw [sameBytes other listed]
            exact textsRest other listed
          obtain ⟨left, second, kept, become⟩ := ih textsBetween (sameFiles ▸ apart.2)
          rw [sameFiles] at kept
          refine ⟨left, first.bind_of_none troubled second, fun other elsewhere => ?_,
            fun fine => ?_⟩
          · rw [List.map_cons, List.mem_cons, not_or] at elsewhere
            rw [kept other elsewhere.2, keptFirst other elsewhere.1]
          · have fineRest : (console.renderAll (rest.map pathLine)).2 = none :=
              (congrArg Prod.snd (Console.renderAll_append_of_none troubled)).symm.trans fine
            refine List.forall_mem_cons.mpr ⟨(kept path apart.1).trans own, ?_⟩
            intro other listed
            obtain ⟨otherText, otherStands⟩ := textsRest other listed
            rw [become fineRest other listed, Disk.completed_eq otherStands,
              Disk.completed_eq ((sameBytes other listed).trans otherStands)]

/-- Titles and texts that come out as they are stand one below the other. -/
theorem renderAll_previewLines {become : Path → String}
    (shows : ∀ path ∈ paths, console.Shows (previewTitle path) path.toString ∧
      console.Shows (.verbatim (become path)) (become path)) :
    console.renderAll (previewLines become paths) =
      (String.join (paths.map fun path => path.toString ++ "
" ++ (become path ++ "
")),
        none) := by
  induction paths with
  | nil => rfl
  | cons path rest ih =>
      obtain ⟨⟨title, text⟩, showsRest⟩ := List.forall_mem_cons.mp shows
      rw [Console.Shows] at title text
      have lines : previewLines become (path :: rest) =
          previewTitle path :: .verbatim (become path) :: previewLines become rest := rfl
      rw [lines, Console.renderAll, title, Console.renderAll, text, ih showsRest, List.map_cons,
        String.join_cons]
      simp only [String.append_assoc]

/-- Over different files that hold UTF-8, a preview changes nothing and prints, in the order of the
paths, a title for each file and the text that completing the files leaves in it.  What a console
shows as it is stands there as it is: each path, and below it the text. -/
theorem preview_prints_completed_files (console : Console)
    (texts : ∀ path ∈ paths, ∃ text : String, disk.readBytes path = .ok text.toUTF8)
    (apart : (paths.map disk.openFile).Nodup) (environment : Option String) :
    let preview := (Command.imports paths true).run environment disk console
    let completion := (Command.imports paths false).run environment disk console
    preview.2 = disk ∧
      preview.1.Ends console (previewLines disk.completed paths) 0 ∧
      completion.1.Ends console (paths.map pathLine) 0 ∧
      (completion.1.trouble = none →
        ∀ path ∈ paths, completion.2.readBytes path = .ok (disk.completed path).toUTF8) ∧
      ((∀ path ∈ paths, console.Shows (previewTitle path) path.toString ∧
          console.Shows (.verbatim (disk.completed path)) (disk.completed path)) →
        preview.1.exitCode = 0 ∧ preview.1.trouble = none ∧
          preview.1.printed = String.join (paths.map fun path =>
            path.toString ++ "
" ++ (disk.completed path ++ "
"))) := by
  intro preview completion
  obtain ⟨left, completes, -, become⟩ :
      ∃ left, (importFiles console false paths).EndsWith console disk () (paths.map pathLine)
        left ∧ _ := importFiles_completion texts apart
  obtain ⟨shownState, shown⟩ : preview.2 = disk ∧ preview.1.Ends console _ 0 :=
    run_of_endsWith ((importFiles_preview texts).returning 0)
  obtain ⟨doneState, done⟩ : completion.2 = left ∧ completion.1.Ends console _ 0 :=
    run_of_endsWith (completes.returning 0)
  refine ⟨shownState, shown, done, fun fine path listed => ?_, fun shows => ?_⟩
  · rw [doneState]
    exact become (done.trouble.symm.trans fine) path listed
  · have printed := renderAll_previewLines shows
    refine ⟨?_, shown.trouble.trans ?_, shown.printed.trans ?_⟩
    · rw [shown.exitCode, printed]
      rfl
    · rw [printed]
    · rw [printed]

end Command

namespace Disk

/-- Two files are shown and completed, the second of them through a link. -/
theorem preview_prints_two_completed_files :
    let files := ofFiles [("pages/a.js", "<Note/>\r\n".toUTF8), ("-b", "<p/>".toUTF8)]
    let disk := (files.makeLink (Path.ofString "latest") "./-b").toOption.getD files
    let paths := [Path.ofString "./pages//a.js", Path.ofString "latest"]
    let completion := (Command.imports paths false).run none disk .wide
    (paths.map disk.openFile).Nodup ∧ completion.1.trouble = none ∧
      (∀ path ∈ paths, completion.2.readBytes path = .ok (disk.completed path).toUTF8) ∧
      ((Command.imports paths true).run none disk .wide).1.printed =
        "pages/a.js\n" ++ (disk.completed (Path.ofString "./pages//a.js") ++ "\n") ++
          ("latest\n" ++ (disk.completed (Path.ofString "latest") ++ "\n")) := by
  intro files disk paths
  dsimp only
  have apart : (paths.map disk.openFile).Nodup := by decide +kernel
  have first : disk.readBytes (Path.ofString "./pages//a.js") = .ok "<Note/>\r\n".toUTF8 := by
    decide +kernel
  have second : disk.readBytes (Path.ofString "latest") = .ok "<p/>".toUTF8 := by decide +kernel
  obtain ⟨-, -, done, become, shown⟩ := Command.preview_prints_completed_files .wide
    (List.forall_mem_cons.mpr ⟨⟨_, first⟩, List.forall_mem_singleton.mpr ⟨_, second⟩⟩) apart none
  have fine : (Console.wide.renderAll (paths.map Command.pathLine)).2 = none := by decide +kernel
  have untroubled := done.trouble.trans fine
  refine ⟨apart, untroubled, become untroubled, ?_⟩
  have titles : ∀ path ∈ paths, Console.wide.Shows (Command.previewTitle path) path.toString := by
    decide +kernel
  rw [(shown fun path listed => ⟨titles path listed, rfl⟩).2.2]
  rfl

/-- A title that ends in a backslash is printed with the mark that should end its style. -/
theorem preview_garbles_title :
    let disk := ofFiles [("a\\", "<A/>".toUTF8)]
    let paths := [Path.ofString "a\\"]
    let text := "import React from 'react'\nimport A from '../../A'\n<A/>"
    ((Command.imports paths false).run none disk .wide).2.readBytes (Path.ofString "a\\") =
        .ok text.toUTF8 ∧
      ((Command.imports paths true).run none disk .wide).1.printed = "a[/bold]\n" ++ text ++ "\n" ∧
      ((Command.imports paths true).run none disk .wide).1.printed ≠ "a\\\n" ++ text ++ "\n" := by
  intro disk paths text
  exact ⟨by decide +kernel, by decide +kernel, by decide +kernel⟩

end Disk

end PageLinker
