import PageLinker.Proofs.Tree.Members

/-!
# Collecting is exact

The pages of a group are the listed files that have the extension, the index apart, ordered by base
name.  They are collected unless two of them share a base name.  So neither the order of a listing
nor an index in it makes a difference.
-/

namespace PageLinker

namespace Members

variable {layout : Layout} {group : String}

/-- The page that a listed file is, if it is one. -/
def page? (layout : Layout) (filename : String) : Option Member :=
  if layout.isIndex filename then none
  else (layout.extension.bind (Layout.stripExtension filename)).map (⟨·, filename⟩)

def pagesAmong (layout : Layout) (filenames : List String) : List Member :=
  filenames.filterMap (page? layout)

theorem mem_pagesAmong_iff {extension : String} (extensionSet : layout.extension = some extension)
    {filenames : List String} {page : Member} :
    page ∈ pagesAmong layout filenames ↔
      page.filename ∈ filenames ∧ layout.isIndex page.filename = false ∧
        layout.base? page.filename = .ok (some page.base) := by
  have isPage (filename : String) : page? layout filename = some page ↔
      filename = page.filename ∧ layout.isIndex page.filename = false ∧
        layout.base? page.filename = .ok (some page.base) := by
    obtain ⟨base, ownName⟩ := page
    simp only [page?, Layout.base?, extensionSet, Option.bind_some]
    by_cases isIndex : layout.isIndex filename
    · simp only [if_pos isIndex, reduceCtorEq, false_iff]
      rintro ⟨rfl, notIndex, -⟩
      cases notIndex.symm.trans isIndex
    · rw [if_neg isIndex, Option.map_eq_some_iff]
      constructor
      · rintro ⟨found, stripped, same⟩
        cases same
        exact ⟨rfl, by simpa using isIndex, congrArg Except.ok stripped⟩
      · rintro ⟨rfl, -, stripped⟩
        exact ⟨base, Except.ok.inj stripped, rfl⟩
  rw [pagesAmong, List.mem_filterMap]
  simp only [isPage]
  constructor
  · rintro ⟨_, listed, rfl, rest⟩
    exact ⟨listed, rest⟩
  · rintro ⟨listed, rest⟩
    exact ⟨_, listed, rfl, rest⟩

/-- The base names rise strictly. -/
def Ascending (pages : List Member) : Prop :=
  pages.Pairwise fun first second => first.base < second.base

theorem Ascending.bases_nodup {pages : List Member} (ascending : Ascending pages) :
    (pages.map (·.base)).Nodup := by
  refine List.pairwise_map.mpr (ascending.imp ?_)
  intro first second before same
  rw [same] at before
  exact String.lt_irrefl _ before

theorem Ascending.eq_of_perm {first second : List Member} (ascending : Ascending first)
    (also : Ascending second) (same : first.Perm second) : first = second := by
  refine List.Perm.eq_of_pairwise ?_ ascending also same
  intro page other _ _ before after
  exact absurd after (String.lt_asymm before)

theorem page?_of_isIndex {filename : String} (isIndex : layout.isIndex filename) :
    page? layout filename = none := by
  rw [page?, if_pos isIndex]

theorem pagesAmong_perm {filenames others : List String} (same : filenames.Perm others) :
    (pagesAmong layout filenames).Perm (pagesAmong layout others) :=
  same.filterMap _

/-- A page finds its place among ordered pages, unless one of them has its base name. -/
theorem insert_cases (page : Member) {found : List Member} (ascending : Ascending found) :
    (∃ earlier ∈ found, earlier.base = page.base ∧ insert page found = .error earlier) ∨
      ∃ extended, insert page found = .ok extended ∧ Ascending extended := by
  induction found with
  | nil => exact .inr ⟨[page], rfl, List.pairwise_singleton _ _⟩
  | cons first rest ih =>
      obtain ⟨beforeRest, ascendingRest⟩ := List.pairwise_cons.mp ascending
      rw [insert]
      by_cases same : page.base = first.base
      · rw [if_pos same]
        exact .inl ⟨first, by simp, same.symm, rfl⟩
      · rw [if_neg same]
        by_cases before : page.base < first.base
        · rw [if_pos before]
          refine .inr ⟨_, rfl, List.pairwise_cons.mpr ⟨?_, ascending⟩⟩
          refine List.forall_mem_cons.mpr ⟨before, fun other later => ?_⟩
          exact String.lt_trans before (beforeRest other later)
        · rw [if_neg before]
          have after : first.base < page.base := by
            rcases String.le_total page.base first.base with le | ge
            · exact absurd (String.le_antisymm le (String.not_lt.mp before)) same
            · exact String.not_le.mp fun le => same (String.le_antisymm le ge)
          rcases ih ascendingRest with ⟨earlier, listed, shared, clashes⟩ | ⟨later, fits, ordered⟩
          · rw [clashes]
            exact .inl ⟨earlier, by simp [listed], shared, rfl⟩
          · rw [fits]
            refine .inr ⟨first :: later, rfl, List.pairwise_cons.mpr ⟨?_, ordered⟩⟩
            intro other member
            rcases List.mem_cons.mp ((insert_perm fits).mem_iff.mp member) with rfl | old
            · exact after
            · exact beforeRest other old

theorem collectInto_cons {extension : String} (extensionSet : layout.extension = some extension)
    (found : List Member) (filename : String) (rest : List String) :
    collectInto layout group found (filename :: rest) =
      match page? layout filename with
      | none => collectInto layout group found rest
      | some page =>
          match insert page found with
          | .error earlier =>
              .error (.clash ⟨page.base, inOrder earlier.filename filename, some group⟩)
          | .ok extended => collectInto layout group extended rest := by
  simp only [collectInto, page?, Layout.base?, extensionSet, Option.bind_some]
  by_cases isIndex : layout.isIndex filename
  · simp only [if_pos isIndex]
  · simp only [if_neg isIndex]
    cases Layout.stripExtension filename extension <;> rfl

/-- Files that are no pages can be left out of a listing. -/
theorem collect_leaving_out {extension : String} (extensionSet : layout.extension = some extension)
    {test : String → Bool} {filenames : List String}
    (noPages : ∀ filename ∈ filenames, test filename = false → page? layout filename = none) :
    collect layout group (filenames.filter test) = collect layout group filenames := by
  have withFound (found : List Member) :
      collectInto layout group found (filenames.filter test) =
        collectInto layout group found filenames := by
    induction filenames generalizing found with
    | nil => rfl
    | cons filename rest ih =>
        obtain ⟨first, others⟩ := List.forall_mem_cons.mp noPages
        cases passes : test filename with
        | false =>
            rw [List.filter_cons_of_neg (by simp [passes]), collectInto_cons extensionSet,
              first passes]
            exact ih others found
        | true =>
            rw [List.filter_cons_of_pos passes, collectInto_cons extensionSet,
              collectInto_cons extensionSet]
            simp only [ih others]
  exact withFound []

theorem filename_of_page? {filename : String} {page : Member}
    (isPage : page? layout filename = some page) : page.filename = filename := by
  rw [page?] at isPage
  split at isPage
  · cases isPage
  · obtain ⟨base, -, rfl⟩ := Option.map_eq_some_iff.mp isPage
    rfl

theorem pagesAmong_filenames_nodup {filenames : List String} (distinct : filenames.Nodup) :
    ((pagesAmong layout filenames).map (·.filename)).Nodup := by
  have kept : ((pagesAmong layout filenames).map (·.filename)).Sublist filenames := by
    induction filenames with
    | nil => exact .slnil
    | cons filename rest ih =>
        have later := ih distinct.of_cons
        cases isPage : page? layout filename with
        | none =>
            rw [pagesAmong, List.filterMap_cons_none isPage]
            exact later.cons filename
        | some page =>
            rw [pagesAmong, List.filterMap_cons_some isPage, List.map_cons,
              filename_of_page? isPage]
            exact later.cons_cons filename
  exact distinct.sublist kept

/-- Of two pages with one base name the bases repeat, whatever else is there. -/
theorem not_nodup_of_shared {pages others : List Member} {earlier page : Member}
    (all : pages.Perm (earlier :: page :: others)) (shared : earlier.base = page.base) :
    ¬ (pages.map (·.base)).Nodup := by
  rw [(all.map (·.base)).nodup_iff]
  simp [shared]

/-- Collecting adds all listed pages in their places, or ends in a clash of two pages that share a
base name. -/
theorem collectInto_cases {extension : String} (extensionSet : layout.extension = some extension)
    (group : String) {found : List Member} (ascending : Ascending found)
    (filenames : List String) :
    (∃ pages, collectInto layout group found filenames = .ok pages ∧ Ascending pages ∧
        pages.Perm (found ++ pagesAmong layout filenames)) ∨
      ∃ earlier page others, earlier.base = page.base ∧
        (found ++ pagesAmong layout filenames).Perm (earlier :: page :: others) ∧
        collectInto layout group found filenames =
          .error (.clash ⟨page.base, inOrder earlier.filename page.filename, some group⟩) := by
  induction filenames generalizing found with
  | nil => exact .inl ⟨found, rfl, ascending, by simp [pagesAmong]⟩
  | cons filename rest ih =>
      rw [collectInto_cons extensionSet]
      cases isPage : page? layout filename with
      | none =>
          have skipped : pagesAmong layout (filename :: rest) = pagesAmong layout rest :=
            List.filterMap_cons_none isPage
          rw [skipped]
          exact ih ascending
      | some page =>
          have added : pagesAmong layout (filename :: rest) = page :: pagesAmong layout rest :=
            List.filterMap_cons_some isPage
          rw [added]
          rcases insert_cases page ascending with
            ⟨earlier, listed, shared, clashes⟩ | ⟨extended, fits, ordered⟩
          · obtain ⟨front, back, rfl⟩ := List.append_of_mem listed
            simp only [clashes]
            refine .inr ⟨earlier, page, front ++ back ++ pagesAmong layout rest, shared, ?_, ?_⟩
            · refine List.perm_middle.trans (.cons page ?_) |>.trans (.swap earlier page _)
              exact List.perm_middle.append_right _
            · rw [filename_of_page? isPage]
          · simp only [fits]
            have moved : (extended ++ pagesAmong layout rest).Perm
                (found ++ page :: pagesAmong layout rest) :=
              ((insert_perm fits).append_right _).trans List.perm_middle.symm
            rcases ih ordered with
              ⟨pages, collected, rising, all⟩ | ⟨earlier, later, others, shared, all, failed⟩
            · exact .inl ⟨pages, collected, rising, all.trans moved⟩
            · exact .inr ⟨earlier, later, others, shared, moved.symm.trans all, failed⟩

section Exactness

variable {extension : String} (extensionSet : layout.extension = some extension)
include extensionSet

/-- The pages of a group are the listed ones in the order of their base names. -/
theorem collect_eq_ok_iff {filenames : List String} {pages : List Member} :
    collect layout group filenames = .ok pages ↔
      pages.Perm (pagesAmong layout filenames) ∧ Ascending pages := by
  have cases := collectInto_cases extensionSet group List.Pairwise.nil filenames
  rw [List.nil_append] at cases
  rw [collect]
  constructor
  · intro collected
    rcases cases with ⟨found, same, ascending, all⟩ | ⟨earlier, page, others, -, -, failed⟩
    · cases collected.symm.trans same
      exact ⟨all, ascending⟩
    · cases collected.symm.trans failed
  · rintro ⟨all, ascending⟩
    rcases cases with ⟨found, same, rising, listed⟩ | ⟨earlier, page, others, shared, both, -⟩
    · rw [same, rising.eq_of_perm ascending (listed.trans all.symm)]
    · exact absurd ascending.bases_nodup (not_nodup_of_shared (all.trans both) shared)

/-- Only two pages with one base name keep the pages from being collected. -/
theorem collect_eq_error {filenames : List String} {failure : Failure}
    (failed : collect layout group filenames = .error failure) :
    ∃ earlier page others, earlier.base = page.base ∧
      (pagesAmong layout filenames).Perm (earlier :: page :: others) ∧
      failure = .clash ⟨page.base, inOrder earlier.filename page.filename, some group⟩ := by
  rcases collectInto_cases extensionSet group List.Pairwise.nil filenames with
    ⟨pages, collected, -⟩ | ⟨earlier, page, others, shared, all, clashes⟩
  · cases failed.symm.trans collected
  · exact ⟨earlier, page, others, shared, all, Except.error.inj (failed.symm.trans clashes)⟩

end Exactness

end Members

end PageLinker
