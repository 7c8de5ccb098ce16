import PageLinker.Proofs.Text.LetterCase

/-!
# Letters and their lower case

What holds of the character data: a letter that has a lower case is a letter with a case, and so is
its lower case, which has no lower case in turn.  The tables are compared as a whole, as numbers
with a bit for every code point.
-/

namespace PageLinker

namespace CharRanges

/-- The set as a number, which has a bit for every code point. -/
def mask (ranges : CharRanges) : Nat :=
  ranges.foldr (fun span others => (1 <<< (span.2 + 1 - span.1) - 1) <<< span.1 ||| others) 0

def ofCodes (codes : List Nat) : CharRanges :=
  codes.map fun code => (code, code)

theorem testBit_mask (ranges : CharRanges) (code : Nat) :
    (mask ranges).testBit code = ranges.any fun span => span.1 ≤ code && code ≤ span.2 := by
  induction ranges with
  | nil => simp [mask]
  | cons span others ih =>
      rw [mask, List.foldr_cons, ← mask.eq_def, Nat.testBit_or, ih, Nat.testBit_shiftLeft,
        Nat.one_shiftLeft, Nat.testBit_two_pow_sub_one, List.any_cons]
      congr 1
      rw [Bool.eq_iff_iff]
      simp only [Bool.and_eq_true, decide_eq_true_eq]
      omega

theorem testBit_mask_ofCodes {codes : List Nat} {code : Nat} :
    (mask (ofCodes codes)).testBit code = true ↔ code ∈ codes := by
  rw [testBit_mask, ofCodes, List.any_map, List.any_eq_true]
  constructor
  · rintro ⟨other, listed, within⟩
    simp only [Function.comp_apply, Bool.and_eq_true, decide_eq_true_eq] at within
    exact Nat.le_antisymm within.1 within.2 ▸ listed
  · exact fun listed => ⟨code, listed, by simp⟩

/-- The codes of one number that are not codes of another. -/
def without (mask other : Nat) : Nat :=
  mask ^^^ (mask &&& other)

theorem testBit_without (mask other code : Nat) :
    (without mask other).testBit code = (mask.testBit code && !other.testBit code) := by
  rw [without, Nat.testBit_xor, Nat.testBit_and]
  cases mask.testBit code <;> cases other.testBit code <;> rfl

theorem testBit_of_and_eq {mask other code : Nat} (within : mask &&& other = mask)
    (member : mask.testBit code = true) : other.testBit code = true := by
  rw [← within, Nat.testBit_and, Bool.and_eq_true] at member
  exact member.2

end CharRanges

namespace LetterCase

open CharRanges (mask ofCodes without testBit_mask testBit_mask_ofCodes testBit_without
  testBit_of_and_eq)

/-- The codes of the letters in the range. -/
def LoweredRange.codes (range : LoweredRange) : List Nat :=
  (List.range ((range.last - range.first) / range.stride + 1)).map
    (range.first + range.stride * ·)

theorem LoweredRange.mem_codes {range : LoweredRange} {c : Char} (holds : range.holds c = true) :
    c.toNat ∈ range.codes := by
  simp only [LoweredRange.holds, Bool.and_eq_true, decide_eq_true_eq, beq_iff_eq] at holds
  obtain ⟨⟨first, last⟩, stride⟩ := holds
  refine List.mem_map.mpr ⟨(c.toNat - range.first) / range.stride, ?_, ?_⟩
  · rw [List.mem_range, Nat.lt_succ_iff]
    exact Nat.div_le_div_right (Nat.sub_le_sub_right last _)
  · rw [Nat.mul_div_cancel' (Nat.dvd_of_mod_eq_zero stride), Nat.add_sub_cancel' first]

/-- The letters above ASCII that have a lower case of their own. -/
def upperCodes : List Nat :=
  loweredRanges.flatMap LoweredRange.codes

/-- What these letters become. -/
def lowerCodes : List Nat :=
  loweredRanges.flatMap fun range =>
    range.codes.map fun code : Nat => (code + range.distance).toNat

/-- The letters with a case, but no capital ASCII letters, and none that are passed over in the
search for a neighbour. -/
def letterMask : Nat :=
  without (mask ((97, 122) :: casedRanges)) (mask caseIgnorableRanges)

/-- The letters of these that are their own lower case. -/
def settledMask : Nat :=
  without letterMask (mask (ofCodes (0x130 :: upperCodes)))

/-- A letter with a case, which is not passed over in the search for a neighbouring letter. -/
def IsLetter (c : Char) : Prop :=
  isCased c = true ∧ isCaseIgnorable c = false

/-- The character is its own lower case. -/
def IsSettled (c : Char) : Prop :=
  lowerChar c = [c]

instance (c : Char) : Decidable (IsLetter c) :=
  inferInstanceAs (Decidable (_ ∧ _))

instance (c : Char) : Decidable (IsSettled c) :=
  inferInstanceAs (Decidable (_ = _))

theorem lowerChar_dotted : lowerChar 'İ' = ['i', '\u0307'] :=
  rfl

/-- The letters that lower-casing treats apart, and what they become. -/
theorem isLetter_apart : ∀ c ∈ ['İ', 'i', 'Σ', 'σ', 'ς'], IsLetter c := by
  have all : ['İ', 'i', 'Σ', 'σ', 'ς'].all (fun c => IsLetter c) = true := by decide +kernel
  exact fun c listed => of_decide_eq_true (List.all_eq_true.mp all c listed)

theorem isSettled_apart : ∀ c ∈ ['i', '\u0307', 'σ', 'ς'], IsSettled c := by
  have all : ['i', '\u0307', 'σ', 'ς'].all (fun c => IsSettled c) = true := rfl
  exact fun c listed => of_decide_eq_true (List.all_eq_true.mp all c listed)

theorem classes_of_ascii {c : Char} (ascii : c.toNat < 128) :
    (letterMask.testBit c.toNat = true → IsLetter c ∧ IsSettled c) ∧
      (IsSettled c ∨ IsSettled c.toLower ∧ IsLetter c ∧ IsLetter c.toLower) := by
  have all : ∀ code < 128, (letterMask.testBit (Char.ofNat code).toNat = true →
      IsLetter (Char.ofNat code) ∧ IsSettled (Char.ofNat code)) ∧
        (IsSettled (Char.ofNat code) ∨ IsSettled (Char.ofNat code).toLower ∧
          IsLetter (Char.ofNat code) ∧ IsLetter (Char.ofNat code).toLower) := by
    decide +kernel
  exact forall_ascii (fun c => (letterMask.testBit c.toNat = true → IsLetter c ∧ IsSettled c) ∧
    (IsSettled c ∨ IsSettled c.toLower ∧ IsLetter c ∧ IsLetter c.toLower)) all ascii

theorem isLetter_of_testBit {c : Char} (letter : letterMask.testBit c.toNat = true) :
    IsLetter c := by
  by_cases ascii : c.toNat < 128
  · exact ((classes_of_ascii ascii).1 letter).1
  · have outside : ¬ c.toNat ≤ 122 := by omega
    rw [letterMask, testBit_without, testBit_mask, testBit_mask, List.any_cons] at letter
    simp only [outside, decide_false, Bool.and_false, Bool.false_or, Bool.and_eq_true,
      Bool.not_eq_true'] at letter
    rw [IsLetter, isCased, isCaseIgnorable, if_neg ascii, if_neg ascii]
    exact letter

theorem isSettled_of_not_mem {c : Char} (above : ¬ c.toNat < 128) (notUpper : c.toNat ∉ upperCodes)
    (notDotted : c ≠ 'İ') : IsSettled c := by
  have none : loweredRanges.find? (·.holds c) = none := by
    rw [List.find?_eq_none]
    intro range listed holds
    exact notUpper (List.mem_flatMap.mpr ⟨range, listed, LoweredRange.mem_codes holds⟩)
  rw [IsSettled, lowerChar, if_neg above, if_neg (by simpa using notDotted), none]

theorem isSettled_of_testBit {c : Char} (settled : settledMask.testBit c.toNat = true) :
    IsLetter c ∧ IsSettled c := by
  rw [settledMask, testBit_without, Bool.and_eq_true, Bool.not_eq_true'] at settled
  obtain ⟨letter, notUpper⟩ := settled
  refine ⟨isLetter_of_testBit letter, ?_⟩
  by_cases ascii : c.toNat < 128
  · exact ((classes_of_ascii ascii).1 letter).2
  · have others : c.toNat ≠ 0x130 ∧ c.toNat ∉ upperCodes := by
      rw [← Bool.not_eq_true, testBit_mask_ofCodes, List.mem_cons, not_or] at notUpper
      exact notUpper
    refine isSettled_of_not_mem ascii others.2 ?_
    rintro rfl
    exact others.1 rfl

/-- The letters with a lower case are letters, and their lower case is a letter as well. -/
theorem letters_of_table :
    mask (ofCodes upperCodes) &&& letterMask = mask (ofCodes upperCodes) ∧
      mask (ofCodes lowerCodes) &&& settledMask = mask (ofCodes lowerCodes) ∧
      ∀ code ∈ lowerCodes, code.isValidChar := by
  decide +kernel

theorem lowerChar_of_found {c : Char} {range : LoweredRange} (above : ¬ c.toNat < 128)
    (notDotted : c ≠ 'İ') (found : loweredRanges.find? (·.holds c) = some range) :
    ∃ lowered, lowerChar c = [lowered] ∧ IsSettled lowered ∧ IsLetter c ∧ IsLetter lowered := by
  obtain ⟨uppers, lowers, valid⟩ := letters_of_table
  have listed := List.mem_of_find?_eq_some found
  have code : c.toNat ∈ range.codes :=
    LoweredRange.mem_codes (by simpa using List.find?_some found)
  have isUpper : c.toNat ∈ upperCodes := List.mem_flatMap.mpr ⟨range, listed, code⟩
  have isLower : (c.toNat + range.distance).toNat ∈ lowerCodes :=
    List.mem_flatMap.mpr ⟨range, listed, List.mem_map_of_mem code⟩
  have written : (Char.ofNat (c.toNat + range.distance).toNat).toNat =
      (c.toNat + range.distance).toNat := by
    rw [Char.ofNat, dif_pos (valid _ isLower)]
    rfl
  have settled := testBit_of_and_eq lowers (testBit_mask_ofCodes.mpr isLower)
  rw [← written] at settled
  obtain ⟨letter, own⟩ := isSettled_of_testBit settled
  refine ⟨_, ?_, own, ?_, letter⟩
  · rw [lowerChar, if_neg above, if_neg (by simpa using notDotted), found]
  · exact isLetter_of_testBit (testBit_of_and_eq uppers (testBit_mask_ofCodes.mpr isUpper))

/-- A character is its own lower case, or it is one of two letters of which the other is the lower
case, or it is the one letter that becomes two characters. -/
theorem lowerChar_classes (c : Char) :
    IsSettled c ∨ c = 'İ' ∨
      ∃ lowered, lowerChar c = [lowered] ∧ IsSettled lowered ∧ IsLetter c ∧ IsLetter lowered := by
  by_cases ascii : c.toNat < 128
  · have lowered : lowerChar c = [c.toLower] := by rw [lowerChar, if_pos ascii]
    exact (classes_of_ascii ascii).2.imp_right fun letters => .inr ⟨_, lowered, letters⟩
  · by_cases dotted : c = 'İ'
    · exact .inr (.inl dotted)
    · cases found : loweredRanges.find? (·.holds c) with
      | some range => exact .inr (.inr (lowerChar_of_found ascii dotted found))
      | none =>
          left
          rw [IsSettled, lowerChar, if_neg ascii, if_neg (by simpa using dotted), found]

end LetterCase

end PageLinker
