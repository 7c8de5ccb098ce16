import Mathlib.Data.List.Infix
import PageLinker.Proofs.Text.LetterClasses

/-!
# Endings in lower case

Lower-casing looks at neighbours and may add a character, so in general the lower case of a text
does not end as the lower case of its ending.  It does when that ending is steady: it neither starts
inside `İ` nor contains it, and no sigma in it takes its form from what stands in front.
-/

namespace PageLinker

namespace LetterCase

section Neighbours

variable {afterCased : Bool} {c : Char} {rest : List Char}

theorem isSettled_of_mem_lowerAmong : ∀ lowered ∈ lowerAmong afterCased c rest,
    IsSettled lowered := by
  rw [lowerAmong]
  split
  · rw [List.forall_mem_singleton]
    split <;> exact isSettled_apart _ (by simp)
  · rcases lowerChar_classes c with settled | rfl | ⟨lowered, single, settled, -⟩
    · rw [settled, List.forall_mem_singleton]
      exact settled
    · rw [lowerChar_dotted]
      exact fun lowered member => isSettled_apart lowered (List.mem_append_left ['σ', 'ς'] member)
    · rw [single, List.forall_mem_singleton]
      exact settled

/-- The first of the characters that one becomes is passed over when the one was, and a letter when
it was.  Where it is passed over, it is the only one. -/
theorem lowerAmong_classes (afterCased : Bool) (c : Char) (rest : List Char) :
    ∃ first others, lowerAmong afterCased c rest = first :: others ∧
      isCaseIgnorable first = isCaseIgnorable c ∧ isCased first = isCased c ∧
      (isCaseIgnorable c = true → others = []) := by
  have ofLetters {first : Char} {others : List Char}
      (becomes : lowerAmong afterCased c rest = first :: others) (upper : IsLetter c)
      (letter : IsLetter first) : ∃ first others, lowerAmong afterCased c rest = first :: others ∧
        isCaseIgnorable first = isCaseIgnorable c ∧ isCased first = isCased c ∧
        (isCaseIgnorable c = true → others = []) :=
    ⟨first, others, becomes, letter.2.trans upper.2.symm, letter.1.trans upper.1.symm,
      fun passed => absurd (passed.symm.trans upper.2) (by decide)⟩
  by_cases sigma : c = 'Σ'
  · subst sigma
    refine ofLetters (if_pos rfl) (isLetter_apart _ (by simp)) ?_
    split <;> exact isLetter_apart _ (by simp)
  · have among : lowerAmong afterCased c rest = lowerChar c := if_neg (by simpa using sigma)
    rcases lowerChar_classes c with settled | rfl | ⟨lowered, single, -, upper, letter⟩
    · exact ⟨c, [], among.trans settled, rfl, rfl, fun _ => rfl⟩
    · exact ofLetters (among.trans lowerChar_dotted) (isLetter_apart _ (by simp))
        (isLetter_apart _ (by simp))
    · exact ofLetters (among.trans single) upper letter

theorem startsCased_cons : startsCased (c :: rest) =
    if isCaseIgnorable c then startsCased rest else isCased c := by
  rw [startsCased, startsCased, List.dropWhile_cons]
  split <;> rfl

theorem startsCased_lowerFrom (afterCased : Bool) (text : List Char) :
    startsCased (lowerFrom afterCased text) = startsCased text := by
  induction text generalizing afterCased with
  | nil => rfl
  | cons c rest ih =>
      obtain ⟨first, others, among, ignorable, cased, alone⟩ := lowerAmong_classes afterCased c rest
      rw [lowerFrom_cons, among, List.cons_append, startsCased_cons, startsCased_cons, ignorable,
        cased]
      split
      · next passed => rw [alone passed, List.nil_append, ih]
      · rfl

end Neighbours

section Settled

variable {afterCased : Bool} {text : List Char}

theorem isSettled_of_mem_lowerFrom : ∀ lowered ∈ lowerFrom afterCased text, IsSettled lowered := by
  induction text generalizing afterCased with
  | nil => simp [lowerFrom]
  | cons c rest ih =>
      rw [lowerFrom_cons, List.forall_mem_append]
      exact ⟨isSettled_of_mem_lowerAmong, ih⟩

theorem not_isSettled_sigma : ¬ IsSettled 'Σ' := by
  decide +kernel

theorem lowerAmong_of_isSettled {c : Char} (settled : IsSettled c) (rest : List Char) :
    lowerAmong afterCased c rest = [c] := by
  have notSigma : ¬ (c == 'Σ') = true := by
    intro sigma
    exact not_isSettled_sigma (by simpa using (beq_iff_eq.mp sigma) ▸ settled)
  rw [lowerAmong, if_neg notSigma]
  exact settled

/-- A text in lower case is its own lower case, wherever it stands. -/
theorem lowerFrom_of_isSettled (settled : ∀ c ∈ text, IsSettled c) :
    lowerFrom afterCased text = text := by
  induction text generalizing afterCased with
  | nil => rfl
  | cons c rest ih =>
      obtain ⟨first, others⟩ := List.forall_mem_cons.mp settled
      rw [lowerFrom_cons, lowerAmong_of_isSettled first, ih others]
      rfl

theorem exists_lowerFrom_append_of_isSettled {front : List Char}
    (settled : ∀ c ∈ front, IsSettled c) (afterCased : Bool) (back : List Char) :
    ∃ other, lowerFrom afterCased (front ++ back) = front ++ lowerFrom other back := by
  induction front generalizing afterCased with
  | nil => exact ⟨afterCased, rfl⟩
  | cons c rest ih =>
      obtain ⟨first, others⟩ := List.forall_mem_cons.mp settled
      obtain ⟨other, lowered⟩ := ih others (if isCaseIgnorable c then afterCased else isCased c)
      refine ⟨other, ?_⟩
      rw [List.cons_append, lowerFrom_cons, lowerAmong_of_isSettled first, lowered]
      rfl

theorem lowerAmong_dotted (rest : List Char) :
    lowerAmong afterCased 'İ' rest = ['i', '\u0307'] := by
  rw [lowerAmong, if_neg (by decide), lowerChar_dotted]

end Settled

section Sigma

/-- The letter sigma in one of its forms. -/
def isSigma (c : Char) : Bool :=
  c == 'Σ' || c == 'σ' || c == 'ς'

/-- Only characters that are passed over stand in front of a sigma, and no letter follows it:
whether it ends a word is told by what stands in front of the text. -/
def hasOpenSigma : List Char → Bool
  | [] => false
  | c :: rest =>
      if isCaseIgnorable c then hasOpenSigma rest else isSigma c && !startsCased rest

variable {afterCased : Bool} {text : List Char}

theorem exists_of_hasOpenSigma (isOpen : hasOpenSigma text = true) :
    ∃ front sigma back, text = front ++ sigma :: back ∧
      (∀ c ∈ front, isCaseIgnorable c = true) ∧ isSigma sigma = true ∧
      startsCased back = false := by
  induction text with
  | nil => simp [hasOpenSigma] at isOpen
  | cons c rest ih =>
      rw [hasOpenSigma] at isOpen
      split at isOpen
      · next passed =>
          obtain ⟨front, sigma, back, rfl, ignorable, isSigma, uncased⟩ := ih isOpen
          exact ⟨c :: front, sigma, back, rfl, List.forall_mem_cons.mpr ⟨passed, ignorable⟩,
            isSigma, uncased⟩
      · rw [Bool.and_eq_true, Bool.not_eq_true'] at isOpen
        exact ⟨[], c, rest, rfl, by simp, isOpen⟩

/-- An open sigma stays one in lower case. -/
theorem hasOpenSigma_lowerFrom (isOpen : hasOpenSigma text = true) :
    hasOpenSigma (lowerFrom afterCased text) = true := by
  induction text generalizing afterCased with
  | nil => exact isOpen
  | cons c rest ih =>
      obtain ⟨first, others, among, ignorable, -, alone⟩ := lowerAmong_classes afterCased c rest
      rw [hasOpenSigma] at isOpen
      rw [lowerFrom_cons]
      cases passed : isCaseIgnorable c with
      | true =>
          rw [among, alone passed, List.cons_append, hasOpenSigma, ignorable, if_pos passed]
          exact ih (by simpa [passed] using isOpen)
      | false =>
          have told : isSigma c = true ∧ startsCased rest = false := by
            simpa [passed] using isOpen
          have stays : ∃ sigma, lowerAmong afterCased c rest = [sigma] ∧
              isSigma sigma = true ∧ isCaseIgnorable sigma = false := by
            have isSigmaC := told.1
            simp only [isSigma, Bool.or_eq_true, beq_iff_eq] at isSigmaC
            rcases isSigmaC with (rfl | rfl) | rfl
            · rw [lowerAmong, if_pos (by decide)]
              split <;> exact ⟨_, rfl, by decide, (isLetter_apart _ (by simp)).2⟩
            · have settled := isSettled_apart 'σ' (by simp)
              exact ⟨_, lowerAmong_of_isSettled settled rest, by decide, passed⟩
            · have settled := isSettled_apart 'ς' (by simp)
              exact ⟨_, lowerAmong_of_isSettled settled rest, by decide, passed⟩
          obtain ⟨sigma, becomes, isSigma, kept⟩ := stays
          rw [becomes, List.singleton_append, hasOpenSigma, kept, isSigma, startsCased_lowerFrom,
            told.2]
          rfl

/-- Without an open sigma the lower case does not depend on what stands in front. -/
theorem lowerFrom_congr (closed : hasOpenSigma text = false) (other : Bool) :
    lowerFrom afterCased text = lowerFrom other text := by
  induction text generalizing afterCased other with
  | nil => rfl
  | cons c rest ih =>
      rw [lowerFrom_cons, lowerFrom_cons]
      rw [hasOpenSigma] at closed
      cases passed : isCaseIgnorable c with
      | true =>
          have notSigma : ¬ (c == 'Σ') = true := by
            rintro sigma
            obtain rfl : c = 'Σ' := by simpa using sigma
            exact absurd (passed.symm.trans (isLetter_apart 'Σ' (by simp)).2) (by decide)
          have closedRest : hasOpenSigma rest = false := by simpa [passed] using closed
          rw [lowerAmong, lowerAmong, if_neg notSigma, if_neg notSigma]
          exact congrArg _ (ih closedRest _)
      | false =>
          have alike : lowerAmong afterCased c rest = lowerAmong other c rest := by
            rw [lowerAmong, lowerAmong]
            split
            · next sigma =>
                obtain rfl : c = 'Σ' := by simpa using sigma
                have followed : startsCased rest = true := by
                  simpa [passed, isSigma] using closed
                simp [followed]
            · rfl
          rw [alike]
          rfl

/-- Among characters that are their own lower case, an open sigma takes its form from what stands in
front of the text. -/
theorem lowerFrom_of_open {front back : List Char}
    (ignorable : ∀ c ∈ front, isCaseIgnorable c = true)
    (settledFront : ∀ c ∈ front, IsSettled c) (settledBack : ∀ c ∈ back, IsSettled c)
    (uncased : startsCased back = false) (afterCased : Bool) :
    lowerFrom afterCased (front ++ 'Σ' :: back) =
      front ++ (if afterCased then 'ς' else 'σ') :: back := by
  induction front with
  | nil =>
      rw [List.nil_append, lowerFrom_cons, lowerFrom_of_isSettled settledBack, lowerAmong,
        if_pos (by decide), uncased]
      simp
  | cons c rest ih =>
      obtain ⟨passed, ignorableRest⟩ := List.forall_mem_cons.mp ignorable
      obtain ⟨settled, settledRest⟩ := List.forall_mem_cons.mp settledFront
      rw [List.cons_append, lowerFrom_cons, if_pos passed, lowerAmong_of_isSettled settled,
        ih ignorableRest settledRest]
      rfl

/-- Behind a letter, an open sigma ends a word. -/
theorem lowerChars_cons_of_open {front back : List Char}
    (ignorable : ∀ c ∈ front, isCaseIgnorable c = true) (settledFront : ∀ c ∈ front, IsSettled c)
    (settledBack : ∀ c ∈ back, IsSettled c) (uncased : startsCased back = false) :
    lowerChars ('a' :: (front ++ 'Σ' :: back)) = 'a' :: (front ++ 'ς' :: back) := by
  have letter : lowerAmong false 'a' (front ++ 'Σ' :: back) = ['a'] :=
    lowerAmong_of_isSettled (by decide) _
  have afterLetter : (if isCaseIgnorable 'a' then false else isCased 'a') = true := by
    decide
  rw [lowerChars, lowerFrom_cons, letter, afterLetter,
    lowerFrom_of_open ignorable settledFront settledBack uncased]
  rfl

end Sigma

section Length

variable {afterCased : Bool} {text : List Char}

theorem length_lowerFrom (undotted : 'İ' ∉ text) :
    (lowerFrom afterCased text).length = text.length := by
  induction text generalizing afterCased with
  | nil => rfl
  | cons c rest ih =>
      have undottedRest := List.not_mem_of_not_mem_cons undotted
      rcases lowerAmong_cases afterCased c rest with ⟨lowered, single⟩ | ⟨rfl, -⟩
      · rw [lowerFrom_cons, single, List.singleton_append, List.length_cons, ih undottedRest,
          List.length_cons]
      · exact absurd List.mem_cons_self undotted

theorem infix_lowerFrom (dotted : 'İ' ∈ text) :
    ['i', '\u0307'] <:+: lowerFrom afterCased text := by
  obtain ⟨front, back, rfl⟩ := List.append_of_mem dotted
  obtain ⟨before, other, lowered⟩ := exists_lowerFrom_append afterCased front ('İ' :: back)
  rw [lowered, lowerFrom_cons, lowerAmong_dotted, ← List.append_assoc]
  exact ⟨before, _, rfl⟩

end Length

/-- The text is an ending in lower case that an equally long text becomes, wherever it stands. -/
structure IsSteady (lowered : List Char) : Prop where
  begins : lowered.head? ≠ some '\u0307'
  undotted : ¬ ['i', '\u0307'] <:+: lowered
  closed : hasOpenSigma lowered = false

theorem isSteady_of_isAscii {text : List Char} (ascii : IsAscii text) : IsSteady text where
  begins := fun first => absurd (ascii _ (List.mem_of_mem_head? first)) (by decide)
  undotted := fun dotted => absurd (ascii '\u0307' (dotted.subset (by simp))) (by decide)
  closed := by
    by_contra isOpen
    obtain ⟨front, sigma, back, rfl, -, isSigma, -⟩ :=
      exists_of_hasOpenSigma ((Bool.not_eq_false _).mp isOpen)
    have small := ascii sigma (by simp)
    simp only [LetterCase.isSigma, Bool.or_eq_true, beq_iff_eq] at isSigma
    rcases isSigma with (rfl | rfl) | rfl <;> exact absurd small (by decide)

section Endings

variable {afterCased : Bool} {text ending : List Char}

/-- An ending of a concatenation lies in the second part or reaches into the first. -/
theorem suffix_append_cases {front back : List Char} (ends : ending <:+ front ++ back) :
    ending <:+ back ∨ ∃ cut, cut ≠ [] ∧ cut <:+ front ∧ ending = cut ++ back := by
  obtain ⟨before, whole⟩ := ends
  rcases List.append_eq_append_iff.mp whole with ⟨cut, inFront, reaches⟩ | ⟨gap, -, inBack⟩
  · by_cases empty : cut = []
    · subst empty
      exact .inl (reaches ▸ List.suffix_refl back)
    · exact .inr ⟨cut, empty, ⟨before, inFront.symm⟩, reaches⟩
  · exact .inl ⟨gap, inBack.symm⟩

/-- An ending of a text in lower case is what an ending of the text becomes, unless it starts inside
a letter that became two characters. -/
theorem exists_ending_of_suffix (begins : ending.head? ≠ some '\u0307')
    (ends : ending <:+ lowerFrom afterCased text) :
    ∃ front back other, text = front ++ back ∧ lowerFrom other back = ending := by
  induction text generalizing afterCased with
  | nil =>
      obtain rfl : ending = [] := List.suffix_nil.mp ends
      exact ⟨[], [], false, rfl, rfl⟩
  | cons c rest ih =>
      rw [lowerFrom_cons] at ends
      rcases suffix_append_cases ends with inRest | ⟨cut, nonempty, inFirst, reaches⟩
      · obtain ⟨front, back, other, rfl, lowered⟩ := ih inRest
        exact ⟨c :: front, back, other, rfl, lowered⟩
      · -- A cut through the two characters of one letter would leave the combining dot.
        have isWhole : cut = lowerAmong afterCased c rest := by
          rcases lowerAmong_cases afterCased c rest with ⟨lowered, single⟩ | ⟨-, double⟩
          · rw [single] at inFirst ⊢
            simpa [List.suffix_cons_iff, nonempty] using inFirst
          · rw [double] at inFirst ⊢
            have cuts : cut = ['i', '\u0307'] ∨ cut = ['\u0307'] := by
              simpa [List.suffix_cons_iff, nonempty] using inFirst
            rcases cuts with whole | rfl
            · exact whole
            · exact absurd (by rw [reaches]; rfl) begins
        rw [isWhole, ← lowerFrom_cons] at reaches
        exact ⟨[], c :: rest, afterCased, rfl, reaches.symm⟩

/-- What becomes a steady ending is equally long, and becomes it wherever it stands. -/
theorem lowerFrom_of_isSteady {back : List Char} (steady : IsSteady (lowerFrom afterCased back)) :
    (lowerFrom afterCased back).length = back.length ∧
      ∀ other, lowerFrom other back = lowerFrom afterCased back := by
  constructor
  · refine length_lowerFrom fun dotted => ?_
    exact steady.undotted (infix_lowerFrom dotted)
  · intro other
    refine lowerFrom_congr ?_ afterCased
    by_contra isOpen
    have stays : hasOpenSigma (lowerFrom afterCased back) = true :=
      hasOpenSigma_lowerFrom ((Bool.not_eq_false _).mp isOpen)
    exact absurd (stays.symm.trans steady.closed) (by decide)

/-- A text in lower case has a steady ending exactly when an ending of the text becomes it. -/
theorem suffix_lowerChars_iff (steady : IsSteady ending) :
    ending <:+ lowerChars text ↔
      ∃ front back, text = front ++ back ∧ lowerChars back = ending := by
  constructor
  · intro ends
    obtain ⟨front, back, other, whole, rfl⟩ := exists_ending_of_suffix steady.begins ends
    exact ⟨front, back, whole, (lowerFrom_of_isSteady steady).2 false⟩
  · rintro ⟨front, back, rfl, rfl⟩
    obtain ⟨before, other, lowered⟩ := exists_lowerFrom_append false front back
    have alike : lowerFrom other back = lowerChars back := (lowerFrom_of_isSteady steady).2 other
    exact ⟨before, by rw [← alike, ← lowered, lowerChars]⟩

variable {first second : String}

theorem length_eq_of_lower_eq (steady : IsSteady (lower second).toList)
    (alike : lower first = lower second) : first.length = second.length := by
  have ofLower (text : String) : (lower text).toList = lowerChars text.toList :=
    String.toList_ofList
  have ofSteady (text : String) (isSteady : IsSteady (lower text).toList) :
      (lower text).length = text.length := by
    rw [ofLower] at isSteady
    rw [← String.length_toList, ofLower, ← String.length_toList]
    exact (lowerFrom_of_isSteady isSteady).1
  rw [← ofSteady first (alike ▸ steady), alike, ofSteady second steady]

/-- A text ends in lower case as a second one does, when that ending is steady and an ending of the
text has the lower case of the second one. -/
theorem suffix_lower_iff (steady : IsSteady (lower second).toList) :
    (lower second).toList <:+ (lower first).toList ↔
      ∃ front back, first = front ++ back ∧ lower back = lower second := by
  rw [lower, String.toList_ofList] at steady
  rw [lower, lower, String.toList_ofList, String.toList_ofList, suffix_lowerChars_iff steady]
  constructor
  · rintro ⟨front, back, whole, lowered⟩
    refine ⟨String.ofList front, String.ofList back, ?_, ?_⟩
    · rw [← String.ofList_append, ← whole, String.ofList_toList]
    · rw [lower, String.toList_ofList, lowered]
  · rintro ⟨front, back, rfl, lowered⟩
    exact ⟨front.toList, back.toList, String.toList_append, String.ofList_injective lowered⟩

end Endings

end LetterCase

end PageLinker
