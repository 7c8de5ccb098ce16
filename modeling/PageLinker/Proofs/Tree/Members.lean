import PageLinker.Tree.Members

/-!
# Pages that are collected from a listing

Collecting the pages of a group keeps some of the listed files, each once, and never the index of
the group.  So it makes no difference whether the index is there already.
-/

namespace PageLinker

namespace Members

variable {layout : Layout} {group : String}

theorem insert_perm {page : Member} {found extended : List Member}
    (fits : insert page found = .ok extended) : extended.Perm (page :: found) := by
  induction found generalizing extended with
  | nil =>
      cases fits
      exact .refl _
  | cons first rest ih =>
      rw [insert] at fits
      split at fits
      · cases fits
      · split at fits
        · cases fits
          exact .refl _
        · cases inserted : insert page rest with
          | error earlier => simp [inserted, Except.map] at fits
          | ok later =>
              simp only [inserted, Except.map, Except.ok.injEq] at fits
              subst fits
              exact ((ih inserted).cons first).trans (.swap page first rest)

theorem collectInto_files {found pages : List Member} {filenames : List String}
    (collected : collectInto layout group found filenames = .ok pages) :
    ∃ kept, kept.Sublist filenames ∧ (∀ filename ∈ kept, layout.isIndex filename = false) ∧
      (pages.map (·.filename)).Perm (found.map (·.filename) ++ kept) := by
  induction filenames generalizing found with
  | nil =>
      cases collected
      exact ⟨[], .slnil, by simp, by simp⟩
  | cons filename rest ih =>
      rw [collectInto] at collected
      split at collected
      · obtain ⟨kept, sublist, apart, files⟩ := ih collected
        exact ⟨kept, sublist.cons filename, apart, files⟩
      · next notIndex =>
          split at collected
          · cases collected
          · obtain ⟨kept, sublist, apart, files⟩ := ih collected
            exact ⟨kept, sublist.cons filename, apart, files⟩
          · split at collected
            · cases collected
            · next extended fits =>
                obtain ⟨kept, sublist, apart, files⟩ := ih collected
                refine ⟨filename :: kept, sublist.cons_cons filename, ?_, ?_⟩
                · exact List.forall_mem_cons.mpr ⟨by simpa using notIndex, apart⟩
                · have extendedFiles := (insert_perm fits).map (·.filename)
                  refine files.trans ((extendedFiles.append_right kept).trans ?_)
                  exact List.perm_middle.symm

/-- The collected files are among the listed ones, and the index is not one of them. -/
theorem collect_files {pages : List Member} {filenames : List String}
    (collected : collect layout group filenames = .ok pages) :
    ∃ kept, kept.Sublist filenames ∧ (∀ filename ∈ kept, layout.isIndex filename = false) ∧
      (pages.map (·.filename)).Perm kept := by
  simpa using collectInto_files collected

theorem collectInto_filter (found : List Member) (filenames : List String) :
    collectInto layout group found (filenames.filter (!layout.isIndex ·)) =
      collectInto layout group found filenames := by
  induction filenames generalizing found with
  | nil => rfl
  | cons filename rest ih =>
      by_cases isIndex : layout.isIndex filename
      · simp [collectInto, isIndex, ih]
      · simp only [List.filter_cons, isIndex, Bool.not_false, if_true, collectInto, ih]

/-- Whether the index of the group is listed makes no difference. -/
theorem collect_filter (filenames : List String) :
    collect layout group (filenames.filter (!layout.isIndex ·)) =
      collect layout group filenames :=
  collectInto_filter [] filenames

theorem collect_append_index {index : String} (isIndex : layout.isIndex index)
    (filenames : List String) :
    collect layout group (filenames ++ [index]) = collect layout group filenames := by
  rw [← collect_filter, ← collect_filter filenames]
  simp [isIndex]

end Members

end PageLinker
