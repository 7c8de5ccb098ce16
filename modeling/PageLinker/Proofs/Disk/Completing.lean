import PageLinker.Proofs.Build.Repetition
import PageLinker.Proofs.Build.Steps
import PageLinker.Proofs.Page.Imports

/-!
# Completing files on a disk

A file that is completed on a disk is read with its line ends unified and written as a text.  So
its bytes stay, behind the block, exactly when it holds no carriage return.
-/

namespace PageLinker

namespace Tag

theorem takeWhile_unifyEnds (text : List Char) :
    (Lines.unifyEnds text).takeWhile Naming.isSymbol = text.takeWhile Naming.isSymbol := by
  have lineFeed : Naming.isSymbol '\n' = false := by decide
  have carriageReturn : Naming.isSymbol '\r' = false := by decide
  fun_induction Lines.unifyEnds text with
  | case1 rest _ => simp [lineFeed, carriageReturn]
  | case2 rest _ _ => simp [lineFeed, carriageReturn]
  | case3 c rest _ notReturn ih => rw [List.takeWhile_cons, List.takeWhile_cons, ih]
  | case4 => rfl

/-- Line ends neither open a tag nor are part of one. -/
theorem occurrences_unifyEnds (text : List Char) :
    occurrences (Lines.unifyEnds text) = occurrences text := by
  fun_induction Lines.unifyEnds text with
  | case1 rest ih => simpa [occurrences] using ih
  | case2 rest _ ih => simpa [occurrences] using ih
  | case3 c rest _ notReturn ih =>
      rw [occurrences, occurrences, opened, opened, takeWhile_unifyEnds, ih]
  | case4 => rfl

theorem references_unified (text : String) : references (Lines.unified text) = references text := by
  rw [references, references, Lines.unified, String.toList_ofList, occurrences_unifyEnds]

end Tag

section Encoding

theorem toUTF8_append (first second : String) :
    (first ++ second).toUTF8 = first.toUTF8 ++ second.toUTF8 := by
  simp only [String.toUTF8_eq_toByteArray, String.toByteArray_append]

theorem toUTF8_injective : Function.Injective String.toUTF8 := by
  intro first second same
  simpa only [String.toUTF8_eq_toByteArray, String.toByteArray_inj] using same

theorem toUTF8_of_fromUTF8? {content : ByteArray} {text : String}
    (isText : String.fromUTF8? content = some text) : text.toUTF8 = content := by
  unfold String.fromUTF8? at isText
  split at isText
  · rw [← Option.some.inj isText]
    rfl
  · cases isText

end Encoding

namespace ImportBlock

theorem block_unified (text : String) : block (Lines.unified text) = block text := by
  rw [block, block, Tag.references_unified]

/-- Blocks end their lines with line feeds only. -/
theorem not_return_mem_block (text : String) : '\r' ∉ (block text).toList :=
  not_mem_block (by decide) (by decide) text

/-- Behind a block, unified line ends are the line ends of the text exactly when it holds no
carriage return. -/
theorem unified_bytes_kept_iff (text : String) :
    (∃ original, (complete (Lines.unified text)).toUTF8 =
        (block original).toUTF8 ++ text.toUTF8) ↔ '\r' ∉ text.toList := by
  constructor
  · rintro ⟨original, same⟩ carriageReturn
    rw [← toUTF8_append] at same
    have inEither : '\r' ∈ (complete (Lines.unified text)).toList := by
      rw [toUTF8_injective same, String.toList_append]
      exact List.mem_append_right _ carriageReturn
    rw [complete, String.toList_append, List.mem_append] at inEither
    rcases inEither with inBlock | inText
    · exact not_return_mem_block _ inBlock
    · rw [Lines.unified, String.toList_ofList] at inText
      exact Lines.not_mem_unifyEnds _ inText
  · intro noReturn
    rw [Lines.unified_eq_self_iff.mpr noReturn]
    exact ⟨text, toUTF8_append _ _⟩

end ImportBlock

namespace Disk

variable {disk : Disk} {path : Path} {content : ByteArray} {text : String} {number : Nat}

/-- A file with a text is completed where the path leads, with its line ends unified. -/
theorem completeFile_yields (opened : disk.openFile path = .ok number)
    (isText : String.fromUTF8? (disk.bytes number) = some text) :
    (Task.completeFile path).Yields handle disk (ImportBlock.complete (Lines.unified text))
      (disk.refill number (ImportBlock.complete (Lines.unified text)).toUTF8) := by
  refine (Task.completeFile_yields_iff handle_isStorage).mpr ⟨Lines.unified text, ?_, rfl, ?_⟩
  · refine handle_readText.mpr ⟨?_, rfl⟩
    rw [readText_of_openFile opened, decode, isText]
  · exact handle_writeText.mpr (writeBytes_of_openFile opened _)

/-- Completing a file that holds UTF-8 puts the block in front of its text with unified line ends,
and leaves everything else on the disk alone.  So the bytes of the file stay behind a block exactly
when none of them is a carriage return. -/
theorem completeFile_keeps_bytes_iff (stands : disk.readBytes path = .ok content)
    (isText : String.fromUTF8? content = some text) :
    let outcome := (Task.completeFile path).run handle disk
    outcome.result = .ok (ImportBlock.complete (Lines.unified text)) ∧
      outcome.state.readBytes path =
        .ok ((ImportBlock.block text).toUTF8 ++ (Lines.unified text).toUTF8) ∧
      ((∃ original, outcome.state.readBytes path =
          .ok ((ImportBlock.block original).toUTF8 ++ content)) ↔ '\r' ∉ text.toList) ∧
      outcome.state.contents = disk.contents ∧
      ∃ route, disk.locate .content path = .ok route ∧
        ∀ other, ¬ disk.SameFile route other →
          outcome.state.find? other = disk.find? other := by
  intro outcome
  obtain ⟨number, opened, rfl⟩ := except_map_eq_ok.mp stands
  obtain ⟨result, state⟩ := completeFile_yields opened isText
  have reads : outcome.state.readBytes path =
      .ok (ImportBlock.complete (Lines.unified text)).toUTF8 := by
    rw [state, readBytes_refill opened]
  obtain ⟨route, located, isFile⟩ := openFile_eq_ok_iff.mp opened
  refine ⟨result, ?_, ?_, ?_, route, located, fun other apart => ?_⟩
  · rw [reads, ImportBlock.complete, ImportBlock.block_unified, toUTF8_append]
  · rw [← ImportBlock.unified_bytes_kept_iff, toUTF8_of_fromUTF8? isText, reads]
    simp only [Except.ok.injEq]
  · rw [state]
    rfl
  · rw [state]
    exact find?_store_of_apart (store_of_file isFile _) apart

theorem completeFile_keeps_bytes_of_linked_page :
    let content := "\uFEFF<Note/>\n".toUTF8
    let files := ofFiles [("build/page.js", content)]
    let disk := (files.makeLink (Path.ofString "latest") "build/page.js").toOption.getD files
    let outcome := (Task.completeFile (Path.ofString "latest")).run handle disk
    disk.readBytes (Path.ofString "latest") = .ok content ∧
      (∃ original, outcome.state.readBytes (Path.ofString "latest") =
        .ok ((ImportBlock.block original).toUTF8 ++ content)) ∧
      outcome.result =
        .ok "import React from 'react'\nimport Note from '../../Note'\n\uFEFF<Note/>\n" := by
  intro content files disk outcome
  have stands : disk.readBytes (Path.ofString "latest") = .ok content := by decide +kernel
  obtain ⟨result, -, keeps, -⟩ := completeFile_keeps_bytes_iff stands (fromUTF8?_toUTF8 _)
  refine ⟨stands, keeps.mpr (by decide), result.trans ?_⟩
  decide +kernel

/-- Of a page whose lines end in CR LF, the carriage returns are lost. -/
theorem line_ends_lost_in_completed_file :
    let content := "<Note/>\r\n".toUTF8
    let disk := ofFiles [("page.js", content)]
    let outcome := (Task.completeFile (Path.ofString "page.js")).run handle disk
    disk.readBytes (Path.ofString "page.js") = .ok content ∧
      outcome.result = .ok "import React from 'react'\nimport Note from '../../Note'\n<Note/>\n" ∧
      ¬ ∃ original, outcome.state.readBytes (Path.ofString "page.js") =
        .ok ((ImportBlock.block original).toUTF8 ++ content) := by
  intro content disk outcome
  refine ⟨by decide +kernel, by decide +kernel, ?_⟩
  rintro ⟨original, kept⟩
  have left : outcome.state.readBytes (Path.ofString "page.js") =
      .ok (ImportBlock.complete (Lines.unified "<Note/>\r\n")).toUTF8 := by
    decide +kernel
  have same := Except.ok.inj (left.symm.trans kept)
  have noReturn := (ImportBlock.unified_bytes_kept_iff "<Note/>\r\n").mp ⟨original, same⟩
  revert noReturn
  decide

end Disk

end PageLinker
