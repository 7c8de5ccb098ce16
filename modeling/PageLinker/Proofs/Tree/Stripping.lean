import PageLinker.Proofs.Text.Endings
import PageLinker.Tree.Layout

/-!
# Cutting off an extension

The extension is compared in lower case but cut off as it is written.  The two agree on all file
names exactly when the lower case of the extension is steady: then what is cut off is the ending
that has the extension in lower case, whatever stands in front of it.
-/

namespace PageLinker

namespace Layout

open LetterCase

theorem take_stemLength {base ending extension : String}
    (length : ending.length = extension.length) :
    String.ofList ((base ++ ending).toList.take
      (stemLength (base ++ ending).length extension.length)) = base := by
  have stem : stemLength (base ++ ending).length extension.length = base.toList.length := by
    rw [stemLength, String.length_append, length, if_pos (Nat.le_add_left _ _),
      Nat.add_sub_cancel, String.length_toList]
  rw [stem, String.toList_append, List.take_left, String.ofList_toList]

/-- The extension is cut off exactly where a file name ends in it up to case. -/
def StripsExactly (extension : String) : Prop :=
  ∀ filename base, stripExtension filename extension = some base ↔
    ∃ ending, filename = base ++ ending ∧ lower ending = lower extension

theorem stripsExactly_of_isSteady {extension : String}
    (steady : IsSteady (lower extension).toList) : StripsExactly extension := by
  intro filename base
  have hasEnding : (lower extension).toList.isSuffixOf (lower filename).toList ↔
      ∃ front ending, filename = front ++ ending ∧ lower ending = lower extension :=
    List.isSuffixOf_iff_suffix.trans (suffix_lower_iff steady)
  rw [stripExtension]
  constructor
  · intro stripped
    split at stripped
    · next ends =>
        obtain ⟨front, ending, rfl, lowered⟩ := hasEnding.mp ends
        rw [take_stemLength (length_eq_of_lower_eq steady lowered)] at stripped
        cases stripped
        exact ⟨ending, rfl, lowered⟩
    · cases stripped
  · rintro ⟨ending, rfl, lowered⟩
    rw [if_pos (hasEnding.mpr ⟨base, ending, rfl, lowered⟩),
      take_stemLength (length_eq_of_lower_eq steady lowered)]

namespace StripsExactly

variable {extension : String} (exact : StripsExactly extension)
include exact

theorem suffix_iff (text : List Char) :
    lowerChars extension.toList <:+ lowerChars text ↔
      ∃ front back, text = front ++ back ∧ lowerChars back = lowerChars extension.toList := by
  have hasExtension : (lower extension).toList.isSuffixOf (lower (String.ofList text)).toList ↔
      lowerChars extension.toList <:+ lowerChars text := by
    rw [List.isSuffixOf_iff_suffix, lower, lower, String.toList_ofList, String.toList_ofList,
      String.toList_ofList]
  constructor
  · intro ends
    have stripped : ∃ base, stripExtension (String.ofList text) extension = some base :=
      ⟨_, by rw [stripExtension, if_pos (hasExtension.mpr ends)]⟩
    obtain ⟨base, stripped⟩ := stripped
    obtain ⟨ending, whole, lowered⟩ := (exact _ _).mp stripped
    refine ⟨base.toList, ending.toList, ?_, String.ofList_injective lowered⟩
    have characters := congrArg String.toList whole
    rwa [String.toList_ofList, String.toList_append] at characters
  · rintro ⟨front, back, rfl, lowered⟩
    have stripped := (exact (String.ofList (front ++ back)) (String.ofList front)).mpr
      ⟨String.ofList back, String.ofList_append, by rw [lower, String.toList_ofList, lowered]; rfl⟩
    rw [stripExtension] at stripped
    split at stripped
    · next ends => exact hasExtension.mp ends
    · cases stripped

/-- A letter that becomes two characters could end in the first one of the extension. -/
theorem begins : (lowerChars extension.toList).head? ≠ some '\u0307' := by
  intro first
  obtain ⟨rest, whole⟩ := List.head?_eq_some_iff.mp first
  have settled : ∀ c ∈ rest, IsSettled c := by
    have all : ∀ c ∈ lowerChars extension.toList, IsSettled c := isSettled_of_mem_lowerFrom
    exact (List.forall_mem_cons.mp (whole ▸ all)).2
  have lowered : lowerChars ('İ' :: rest) = 'i' :: lowerChars extension.toList := by
    rw [whole, lowerChars, lowerFrom_cons, lowerAmong_dotted, lowerFrom_of_isSettled settled]
    rfl
  obtain ⟨front, back, parts, becomes⟩ :=
    (exact.suffix_iff ('İ' :: rest)).mp (lowered ▸ List.suffix_cons _ _)
  cases front with
  | nil =>
      have longer := congrArg List.length (parts ▸ lowered : lowerChars back = _)
      rw [becomes] at longer
      simp at longer
  | cons c front =>
      obtain ⟨rfl, rfl⟩ := List.cons.inj parts
      have same : lowerChars back = back :=
        lowerFrom_of_isSettled fun c member => settled c (List.mem_append_right front member)
      have lengths := congrArg List.length (same.symm.trans (becomes.trans whole))
      simp at lengths
      omega

/-- Behind a single letter, whatever is the extension up to case is cut off as a whole. -/
theorem stemLength_of_lowered {ending : List Char}
    (lowered : lowerChars ending = lowerChars extension.toList) :
    min (stemLength (ending.length + 1) extension.length) (ending.length + 1) = 1 := by
  have parts : String.ofList (['a'] ++ ending) = "a" ++ String.ofList ending :=
    String.ofList_append
  have stripped := (exact (String.ofList ('a' :: ending)) "a").mpr
    ⟨String.ofList ending, parts, by rw [lower, String.toList_ofList, lowered]; rfl⟩
  rw [stripExtension] at stripped
  split at stripped
  · have one : "a".length = 1 := by decide
    have lengths := congrArg String.length (Option.some.inj stripped)
    rwa [String.length_ofList, List.length_take, String.toList_ofList, String.length_ofList, one]
      at lengths
  · cases stripped

/-- Two endings of different length would be the extension up to case. -/
theorem undotted : ¬ ['i', '\u0307'] <:+: lowerChars extension.toList := by
  rintro ⟨before, after, whole⟩
  have all : ∀ c ∈ lowerChars extension.toList, IsSettled c := isSettled_of_mem_lowerFrom
  rw [← whole, List.forall_mem_append, List.forall_mem_append] at all
  have short : lowerChars (before ++ 'İ' :: after) = lowerChars extension.toList := by
    obtain ⟨other, lowered⟩ :=
      exists_lowerFrom_append_of_isSettled all.1.1 false ('İ' :: after)
    rw [lowerChars, lowered, lowerFrom_cons, lowerAmong_dotted, lowerFrom_of_isSettled all.2,
      ← whole, List.append_assoc]
  have long : lowerChars (lowerChars extension.toList) = lowerChars extension.toList :=
    lowerFrom_of_isSettled isSettled_of_mem_lowerFrom
  have cutShort := exact.stemLength_of_lowered short
  have cutLong := exact.stemLength_of_lowered long
  have lengths := congrArg List.length whole
  simp only [List.length_append, List.length_cons, List.length_nil] at lengths cutShort
  simp only [stemLength] at cutShort cutLong
  split at cutShort <;> split at cutLong <;> omega

section Sigma

variable {front back : List Char} (ignorable : ∀ c ∈ front, isCaseIgnorable c = true)
  (settledFront : ∀ c ∈ front, IsSettled c) (settledBack : ∀ c ∈ back, IsSettled c)
  (uncased : startsCased back = false)
include ignorable settledFront settledBack uncased

/-- An ending with a capital sigma would have the extension in lower case, but not behind a
letter. -/
theorem ne_of_medial_sigma : lowerChars extension.toList ≠ front ++ 'σ' :: back := by
  intro whole
  have lowered := lowerFrom_of_open ignorable settledFront settledBack uncased false
  have ends := (exact.suffix_iff ('a' :: (front ++ 'Σ' :: back))).mpr
    ⟨['a'], front ++ 'Σ' :: back, rfl, lowered.trans whole.symm⟩
  rw [lowerChars_cons_of_open ignorable settledFront settledBack uncased, whole] at ends
  rcases List.suffix_cons_iff.mp ends with same | inRest
  · have lengths := congrArg List.length same
    simp at lengths
  · have same := List.append_cancel_left (inRest.eq_of_length (by simp))
    exact absurd (List.cons.inj same).1 (by decide)

/-- Behind a letter, an ending with a capital sigma would look like the extension, which it is not
when it stands alone. -/
theorem ne_of_final_sigma : lowerChars extension.toList ≠ front ++ 'ς' :: back := by
  intro whole
  have lowered := lowerFrom_of_open ignorable settledFront settledBack uncased false
  have ends : lowerChars extension.toList <:+ lowerChars ('a' :: (front ++ 'Σ' :: back)) := by
    rw [lowerChars_cons_of_open ignorable settledFront settledBack uncased, whole]
    exact List.suffix_cons _ _
  obtain ⟨before, ending, parts, becomes⟩ := (exact.suffix_iff _).mp ends
  have undotted : 'İ' ∉ 'a' :: (front ++ 'Σ' :: back) := by
    have notSettled : ¬ IsSettled 'İ' := by
      rw [IsSettled, lowerChar_dotted]
      decide
    simp only [List.mem_cons, List.mem_append, not_or]
    exact ⟨by decide, fun member => notSettled (settledFront _ member), by decide,
      fun member => notSettled (settledBack _ member)⟩
  have length : ending.length = (front ++ 'Σ' :: back).length := by
    have same : (lowerChars ending).length = ending.length :=
      length_lowerFrom fun member => undotted (parts ▸ List.mem_append_right before member)
    rw [← same, becomes, whole]
    simp
  have aligned : ending = front ++ 'Σ' :: back := by
    have suffixes : ending <:+ 'a' :: (front ++ 'Σ' :: back) := ⟨before, parts.symm⟩
    rcases List.suffix_cons_iff.mp suffixes with same | inRest
    · rw [same] at length
      simp at length
    · exact inRest.eq_of_length length
  rw [aligned, whole] at becomes
  have same := List.append_cancel_left (lowered.symm.trans becomes)
  exact absurd (List.cons.inj same).1 (by decide)

end Sigma

theorem closed : hasOpenSigma (lowerChars extension.toList) = false := by
  by_contra isOpen
  obtain ⟨front, sigma, back, whole, ignorable, isSigma, uncased⟩ :=
    exists_of_hasOpenSigma ((Bool.not_eq_false _).mp isOpen)
  have all : ∀ c ∈ lowerChars extension.toList, IsSettled c := isSettled_of_mem_lowerFrom
  rw [whole, List.forall_mem_append, List.forall_mem_cons] at all
  obtain ⟨settledFront, settledSigma, settledBack⟩ := all
  simp only [LetterCase.isSigma, Bool.or_eq_true, beq_iff_eq] at isSigma
  rcases isSigma with (rfl | rfl) | rfl
  · exact not_isSettled_sigma settledSigma
  · exact exact.ne_of_medial_sigma ignorable settledFront settledBack uncased whole
  · exact exact.ne_of_final_sigma ignorable settledFront settledBack uncased whole

end StripsExactly

/-- An extension is cut off exactly where file names end in it up to case, over all file names,
when its lower case is steady, and only then. -/
theorem stripsExactly_iff_isSteady (extension : String) :
    StripsExactly extension ↔ IsSteady (lower extension).toList := by
  refine ⟨fun exact => ?_, stripsExactly_of_isSteady⟩
  rw [lower, String.toList_ofList]
  exact ⟨exact.begins, exact.undotted, exact.closed⟩

/-- A capital sigma behind a letter is no capital sigma behind a dot, and a dotted capital letter
has room for an extension of two characters. -/
theorem stripExtension_not_exact :
    stripExtension "x.Σ" ".Σ" = none ∧ stripExtension "FOOİ" "i\u0307" = some "FO" ∧
      ¬ StripsExactly ".Σ" ∧ ¬ StripsExactly "i\u0307" := by
  have missed : stripExtension "x.Σ" ".Σ" = none := by decide +kernel
  have shifted : stripExtension "FOOİ" "i\u0307" = some "FO" := by decide +kernel
  refine ⟨missed, shifted, fun exact => ?_, fun exact => ?_⟩
  · have stripped := (exact "x.Σ" "x").mpr ⟨".Σ", by decide, rfl⟩
    exact absurd (missed.symm.trans stripped) (by decide)
  · have stripped := (exact "FOOİ" "FOO").mpr ⟨"İ", by decide, by decide +kernel⟩
    exact absurd (shifted.symm.trans stripped) (by decide)

end Layout

end PageLinker
