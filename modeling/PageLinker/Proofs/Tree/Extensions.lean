import Mathlib.Data.List.Nodup
import PageLinker.Proofs.Memory.Effects
import PageLinker.Proofs.Tree.Collecting
import PageLinker.Proofs.Tree.Stripping
import PageLinker.Tree.Reading

/-!
# Files that have the extension

The extension is compared in lower case but cut off as it is written.  For an ASCII extension the
two agree: what is cut off is the ending that has the extension in lower case, whatever letters
stand in front of it.  So the pages of a group are told from the names of its files alone.
-/

namespace PageLinker

open LetterCase (IsAscii IsSteady)

namespace Layout

/-- A file name has an ASCII extension when it is a base name with an ending that is the extension
up to case. -/
theorem stripExtension_eq_some_iff {filename extension base : String}
    (ascii : IsAscii extension.toList) :
    stripExtension filename extension = some base ↔
      ∃ ending, filename = base ++ ending ∧ ending.length = extension.length ∧
        LetterCase.lower ending = LetterCase.lower extension := by
  have steady : IsSteady (LetterCase.lower extension).toList := by
    rw [LetterCase.lower, String.toList_ofList]
    exact LetterCase.isSteady_of_isAscii (LetterCase.isAscii_lowerChars ascii)
  rw [stripsExactly_of_isSteady steady]
  refine exists_congr fun ending => and_congr_right fun _ => ⟨fun lowered => ?_, And.right⟩
  exact ⟨LetterCase.length_eq_of_lower_eq steady lowered, lowered⟩

theorem isIndex_eq_false_iff {extension : Option String} {indexFile filename : String} :
    isIndex ⟨extension, some indexFile⟩ filename = false ↔ filename ≠ indexFile := by
  simp only [isIndex, beq_eq_false_iff_ne, ne_eq, Option.some.injEq]
  exact not_congr eq_comm

end Layout

namespace Members

/-- The file is no index, and its name is the base name with an ending that is the extension up to
case. -/
structure IsEligible (extension indexFile filename base : String) : Prop where
  notIndex : filename ≠ indexFile
  ends : ∃ ending, filename = base ++ ending ∧ ending.length = extension.length ∧
    LetterCase.lower ending = LetterCase.lower extension

/-- No two different eligible files of a listing have one base name. -/
def BasesDiffer (extension indexFile : String) (filenames : List String) : Prop :=
  ∀ first ∈ filenames, ∀ second ∈ filenames, ∀ base, IsEligible extension indexFile first base →
    IsEligible extension indexFile second base → first = second

/-- Two different file names stand in a report with the smaller one in front. -/
theorem inOrder_cases {first second : String} (differ : first ≠ second) :
    (first < second ∧ inOrder first second = [first, second]) ∨
      (second < first ∧ inOrder first second = [second, first]) := by
  rw [inOrder]
  by_cases before : second < first
  · exact .inr ⟨before, if_pos before⟩
  · refine .inl ⟨String.not_le.mp fun le => ?_, if_neg before⟩
    exact differ (String.le_antisymm (String.not_lt.mp before) le)

section Eligible

variable {extension indexFile group : String} (ascii : IsAscii extension.toList)
  {filenames : List String}
include ascii

theorem mem_pagesAmong_iff_isEligible {page : Member} :
    page ∈ pagesAmong ⟨some extension, some indexFile⟩ filenames ↔
      page.filename ∈ filenames ∧ IsEligible extension indexFile page.filename page.base := by
  rw [mem_pagesAmong_iff rfl]
  simp only [Layout.isIndex_eq_false_iff, Layout.base?, Except.ok.injEq,
    Layout.stripExtension_eq_some_iff ascii]
  exact and_congr_right fun _ => ⟨fun eligible => ⟨eligible.1, eligible.2⟩,
    fun eligible => ⟨eligible.notIndex, eligible.ends⟩⟩

/-- Collected pages are the eligible files, in the order of their base names. -/
theorem mem_iff_of_collect {pages : List Member}
    (collected : collect ⟨some extension, some indexFile⟩ group filenames = .ok pages)
    {page : Member} :
    page ∈ pages ↔
      page.filename ∈ filenames ∧ IsEligible extension indexFile page.filename page.base := by
  rw [((collect_eq_ok_iff rfl).mp collected).1.mem_iff, mem_pagesAmong_iff_isEligible ascii]

theorem basesDiffer_of_collect {pages : List Member}
    (collected : collect ⟨some extension, some indexFile⟩ group filenames = .ok pages) :
    BasesDiffer extension indexFile filenames := by
  intro first firstListed second secondListed base isFirst isSecond
  have firstPage : ⟨base, first⟩ ∈ pages :=
    (mem_iff_of_collect ascii collected).mpr ⟨firstListed, isFirst⟩
  have secondPage : ⟨base, second⟩ ∈ pages :=
    (mem_iff_of_collect ascii collected).mpr ⟨secondListed, isSecond⟩
  have nodup := ((collect_eq_ok_iff rfl).mp collected).2.bases_nodup
  exact congrArg Member.filename (List.inj_on_of_nodup_map nodup firstPage secondPage rfl)

/-- What keeps the pages from being collected is a report of two eligible files with one base
name. -/
theorem exists_clash_of_collect (distinct : filenames.Nodup) {failure : Failure}
    (failed : collect ⟨some extension, some indexFile⟩ group filenames = .error failure) :
    ∃ base first second, first ∈ filenames ∧ second ∈ filenames ∧ first < second ∧
      IsEligible extension indexFile first base ∧ IsEligible extension indexFile second base ∧
      failure = .clash ⟨base, [first, second], some group⟩ := by
  obtain ⟨earlier, page, others, shared, all, rfl⟩ := collect_eq_error rfl failed
  have isListed (member : Member) (either : member ∈ earlier :: page :: others) :
      member.filename ∈ filenames ∧
        IsEligible extension indexFile member.filename member.base :=
    (mem_pagesAmong_iff_isEligible ascii).mp (all.mem_iff.mpr either)
  obtain ⟨earlierListed, isEarlier⟩ := isListed earlier (by simp)
  obtain ⟨pageListed, isPage⟩ := isListed page (by simp)
  rw [shared] at isEarlier
  have differ : earlier.filename ≠ page.filename := by
    have nodup := (all.map (·.filename)).nodup_iff.mp (pagesAmong_filenames_nodup distinct)
    exact fun same => (List.nodup_cons.mp nodup).1 (by simp [same])
  rcases inOrder_cases differ with ⟨before, ordered⟩ | ⟨before, ordered⟩
  · exact ⟨page.base, _, _, earlierListed, pageListed, before, isEarlier, isPage, by rw [ordered]⟩
  · exact ⟨page.base, _, _, pageListed, earlierListed, before, isPage, isEarlier, by rw [ordered]⟩

end Eligible

end Members

namespace Task

open Workspace (Request)

/-- The pages of a listed directory are its eligible files, ordered by base name, unless two of
these share a base name; then such two are reported. -/
theorem memberFiles_exact {State : Type} {handle : Handler Request State} {state : State}
    {directory : Path} {extension indexFile : String} {filenames : List String}
    (ascii : IsAscii extension.toList)
    (listed : ((listDir directory).run handle state).result = .ok filenames)
    (distinct : filenames.Nodup) :
    let result := ((memberFiles directory ⟨some extension, some indexFile⟩).run handle state).result
    (Members.BasesDiffer extension indexFile filenames →
      ∃ pages, result = .ok pages ∧
        pages.Pairwise (fun first second => first.base < second.base) ∧
        ∀ page, page ∈ pages ↔ page.filename ∈ filenames ∧
          Members.IsEligible extension indexFile page.filename page.base) ∧
      (¬ Members.BasesDiffer extension indexFile filenames →
        ∃ base first second, first ∈ filenames ∧ second ∈ filenames ∧ first < second ∧
          Members.IsEligible extension indexFile first base ∧
          Members.IsEligible extension indexFile second base ∧
          result = .error (.clash ⟨base, [first, second], some directory.name⟩)) := by
  intro result
  have isCollected : result =
      Members.collect ⟨some extension, some indexFile⟩ directory.name filenames := by
    simp only [result, memberFiles]
    rw [Program.run_bind_of_ok listed, Outcome.precededBy_result, Program.run_ofExcept]
  rw [isCollected]
  cases collected : Members.collect ⟨some extension, some indexFile⟩ directory.name filenames with
  | ok pages =>
      refine ⟨fun _ => ⟨pages, rfl, ?_, fun page => ?_⟩, fun shared => ?_⟩
      · exact ((Members.collect_eq_ok_iff rfl).mp collected).2
      · exact Members.mem_iff_of_collect ascii collected
      · exact absurd (Members.basesDiffer_of_collect ascii collected) shared
  | error failure =>
      obtain ⟨base, first, second, firstListed, secondListed, before, isFirst, isSecond, rfl⟩ :=
        Members.exists_clash_of_collect ascii distinct collected
      refine ⟨fun differ => ?_, fun _ => ?_⟩
      · have same := differ first firstListed second secondListed base isFirst isSecond
        exact absurd before (same ▸ String.lt_irrefl first)
      · exact ⟨base, first, second, firstListed, secondListed, before, isFirst, isSecond, rfl⟩

end Task

namespace Memory

open Members (BasesDiffer)

/-- A Kelvin sign counts as a `k` of the extension, and letters in front of the extension do not
move the cut. -/
theorem memberFiles_exact_of_kelvin_sign :
    let memory := ofFiles [("build/en/ΑΣ.M\u212a", ""), ("build/en/index.mk", ""),
      ("build/en/İ.mk", ""), ("build/en/mk", ""), ("build/fr/Σ.mk", ""), ("build/fr/Σ.m\u212a", "")]
    let english := ["ΑΣ.M\u212a", "index.mk", "İ.mk", "mk"]
    let french := ["Σ.mk", "Σ.m\u212a"]
    let listing directory :=
      ((Task.listDir (Path.ofString directory)).run (handle Denial.nothing) memory).result
    let result directory := ((Task.memberFiles (Path.ofString directory)
      ⟨some ".mk", some "index.mk"⟩).run (handle Denial.nothing) memory).result
    IsAscii ".mk".toList ∧
      (listing "build/en" = .ok english ∧ english.Nodup ∧ BasesDiffer ".mk" "index.mk" english ∧
        result "build/en" = .ok [⟨"İ", "İ.mk"⟩, ⟨"ΑΣ", "ΑΣ.M\u212a"⟩]) ∧
      listing "build/fr" = .ok french ∧ french.Nodup ∧ ¬ BasesDiffer ".mk" "index.mk" french ∧
        result "build/fr" = .error (.clash ⟨"Σ", french, some "fr"⟩) := by
  intro memory english french listing result
  have ascii : IsAscii ".mk".toList := by decide
  have englishListed : listing "build/en" = .ok english := by decide +kernel
  have frenchListed : listing "build/fr" = .ok french := by decide +kernel
  have pages : result "build/en" = .ok [⟨"İ", "İ.mk"⟩, ⟨"ΑΣ", "ΑΣ.M\u212a"⟩] := by
    decide +kernel
  have clash : result "build/fr" = .error (.clash ⟨"Σ", french, some "fr"⟩) := by
    decide +kernel
  have differ : BasesDiffer ".mk" "index.mk" english := by
    by_contra shared
    obtain ⟨_, _, _, -, -, -, -, -, failed⟩ :=
      (Task.memberFiles_exact ascii englishListed (by decide)).2 shared
    cases pages.symm.trans failed
  have shared : ¬ BasesDiffer ".mk" "index.mk" french := by
    intro differ
    obtain ⟨_, collected, -⟩ :=
      (Task.memberFiles_exact ascii frenchListed (by decide)).1 differ
    cases clash.symm.trans collected
  exact ⟨ascii, ⟨englishListed, by decide, differ, pages⟩, frenchListed, by decide, shared, clash⟩

end Memory

end PageLinker
