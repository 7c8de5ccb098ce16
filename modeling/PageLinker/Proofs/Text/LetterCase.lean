import PageLinker.Text.LetterCase

/-!
# Lower case, character by character

Lower-casing looks at neighbours and may add a character, so it is told by what each character
becomes in its place.  ASCII characters become the same single character everywhere.
-/

namespace PageLinker

namespace LetterCase

def IsAscii (text : List Char) : Prop :=
  ∀ c ∈ text, c.toNat < 128

instance (text : List Char) : Decidable (IsAscii text) :=
  decidable_of_iff (text.all fun c => decide (c.toNat < 128)) (by simp [IsAscii])

/-- What holds of all ASCII codes holds of every ASCII character. -/
theorem forall_ascii (holds : Char → Prop) (all : ∀ code < 128, holds (Char.ofNat code)) {c : Char}
    (ascii : c.toNat < 128) : holds c := by
  have here := all c.toNat ascii
  rwa [Char.ofNat_toNat] at here

/-- What a character becomes between its neighbours. -/
def lowerAmong (afterCased : Bool) (c : Char) (rest : List Char) : List Char :=
  if c == 'Σ' then [if afterCased && !startsCased rest then 'ς' else 'σ'] else lowerChar c

theorem lowerFrom_cons (afterCased : Bool) (c : Char) (rest : List Char) :
    lowerFrom afterCased (c :: rest) = lowerAmong afterCased c rest ++
      lowerFrom (if isCaseIgnorable c then afterCased else isCased c) rest :=
  rfl

/-- One letter alone becomes two characters. -/
theorem lowerChar_cases (c : Char) :
    (∃ lowered, lowerChar c = [lowered]) ∨ c = 'İ' ∧ lowerChar c = ['i', '\u0307'] := by
  rw [lowerChar]
  split
  · exact .inl ⟨_, rfl⟩
  · split
    · next dotted => exact .inr ⟨by simpa using dotted, rfl⟩
    · split
      · exact .inl ⟨_, rfl⟩
      · exact .inl ⟨_, rfl⟩

theorem lowerAmong_cases (afterCased : Bool) (c : Char) (rest : List Char) :
    (∃ lowered, lowerAmong afterCased c rest = [lowered]) ∨
      c = 'İ' ∧ lowerAmong afterCased c rest = ['i', '\u0307'] := by
  rw [lowerAmong]
  split
  · exact .inl ⟨_, rfl⟩
  · exact lowerChar_cases c

/-- Whatever stands in front, the lower case ends in that of the text, begun in some state. -/
theorem exists_lowerFrom_append (afterCased : Bool) (front back : List Char) :
    ∃ before other, lowerFrom afterCased (front ++ back) = before ++ lowerFrom other back := by
  induction front generalizing afterCased with
  | nil => exact ⟨[], afterCased, rfl⟩
  | cons c rest ih =>
      rw [List.cons_append, lowerFrom_cons]
      obtain ⟨before, other, lowered⟩ := ih (if isCaseIgnorable c then afterCased else isCased c)
      exact ⟨_, other, by rw [lowered, List.append_assoc]⟩

theorem lowerFrom_eq_map {text : List Char} (ascii : IsAscii text) (afterCased : Bool) :
    lowerFrom afterCased text = text.map Char.toLower := by
  induction text generalizing afterCased with
  | nil => rfl
  | cons c rest ih =>
      obtain ⟨asciiFirst, asciiRest⟩ := List.forall_mem_cons.mp ascii
      have notSigma : (c == 'Σ') = false := by
        apply beq_eq_false_iff_ne.mpr
        rintro rfl
        exact absurd asciiFirst (by decide)
      rw [lowerFrom_cons, lowerAmong, notSigma, ih asciiRest]
      simp [lowerChar, asciiFirst]

/-- ASCII text stays so in lower case. -/
theorem isAscii_lowerChars {text : List Char} (ascii : IsAscii text) :
    IsAscii (lowerChars text) := by
  rw [lowerChars, lowerFrom_eq_map ascii]
  intro c member
  obtain ⟨original, listed, rfl⟩ := List.mem_map.mp member
  have all : ∀ code < 128, (Char.ofNat code).toLower.toNat < 128 := by decide
  exact forall_ascii (fun c => c.toLower.toNat < 128) all (ascii original listed)

end LetterCase

end PageLinker
