import PageLinker.Proofs.Page.References

/-!
# Tags by position

A tag is told from the text alone: a bracket and behind it the longest run of word characters, if it
starts with a capital.  The scan finds the tag of every position, so a text refers to the names of
its tags, in the order of the positions at which each name opens first.
-/

namespace PageLinker

namespace Tag

/-- The text starts with the characters, and they are word characters. -/
def IsRun (text run : List Char) : Prop :=
  run <+: text ∧ ∀ c ∈ run, Naming.IsWordCharacter c

theorem isRun_takeWhile (text : List Char) : IsRun text (text.takeWhile Naming.isSymbol) := by
  constructor
  · exact List.takeWhile_prefix _
  · intro c member
    apply Naming.isSymbol_iff.mp
    exact List.all_eq_true.mp List.all_takeWhile c member

theorem IsRun.prefix_takeWhile {text run : List Char} (isRun : IsRun text run) :
    run <+: text.takeWhile Naming.isSymbol := by
  obtain ⟨⟨rest, rfl⟩, symbols⟩ := isRun
  rw [List.takeWhile_append_of_pos fun c member => Naming.isSymbol_iff.mpr (symbols c member)]
  exact List.prefix_append run _

/-- Taking symbols while there are any gives the longest run. -/
theorem eq_takeWhile_iff {text run : List Char} :
    run = text.takeWhile Naming.isSymbol ↔
      IsRun text run ∧ ∀ other, IsRun text other → other.length ≤ run.length := by
  constructor
  · rintro rfl
    exact ⟨isRun_takeWhile text, fun other isRun => isRun.prefix_takeWhile.length_le⟩
  · rintro ⟨isRun, longest⟩
    have shorter := longest _ (isRun_takeWhile text)
    exact isRun.prefix_takeWhile.eq_of_length_le shorter

/-- A tag of the given name opens at a position of a text. -/
structure OpensAt (text : String) (position : Nat) (name : String) : Prop where
  bracket : text.toList[position]? = some '<'
  isRun : IsRun (text.toList.drop (position + 1)) name.toList
  longest : ∀ other, IsRun (text.toList.drop (position + 1)) other →
    other.length ≤ name.toList.length
  capital : ∃ first ∈ name.toList.head?, 'A' ≤ first ∧ first ≤ 'Z'

/-- The name of the tag that the scan finds at a position. -/
def foundAt (text : List Char) (position : Nat) : Option String :=
  if text[position]? = some '<' then opened (text.drop (position + 1)) else none

theorem occurrences_eq_filterMap (text : List Char) :
    occurrences text = (List.range text.length).filterMap (foundAt text) := by
  induction text with
  | nil => rfl
  | cons c rest ih =>
      have later : foundAt (c :: rest) ∘ Nat.succ = foundAt rest := by
        funext position
        simp [foundAt]
      rw [List.length_cons, List.range_succ_eq_map, List.filterMap_cons, List.filterMap_map, later,
        ← ih, occurrences]
      by_cases bracket : c = '<'
      · have here : foundAt (c :: rest) 0 = opened rest := by simp [foundAt, bracket]
        rw [here, bracket]
        cases opened rest <;> rfl
      · simp [foundAt, bracket]

theorem opened_eq_some_iff {text : List Char} {name : String} :
    opened text = some name ↔
      name.toList = text.takeWhile Naming.isSymbol ∧
        ∃ first ∈ name.toList.head?, first.isUpper = true := by
  rw [opened]
  constructor
  · intro found
    split at found
    · cases found
    · next first rest run =>
        split at found
        · next capital =>
            cases found
            rw [String.toList_ofList, run]
            exact ⟨rfl, first, rfl, capital⟩
        · cases found
  · rintro ⟨isRun, first, isFirst, capital⟩
    obtain ⟨rest, characters⟩ := List.head?_eq_some_iff.mp isFirst
    have name_eq : String.ofList (first :: rest) = name := by
      rw [← characters, String.ofList_toList]
    rw [← isRun, characters]
    simp [capital, name_eq]

/-- A scan may go on behind the name of a tag, since no other tag opens within it. -/
theorem occurrences_of_opened {text : List Char} {name : String}
    (found : opened text = some name) :
    occurrences ('<' :: text) = name :: occurrences (text.drop name.toList.length) := by
  have whole : name.toList ++ text.drop name.toList.length = text := by
    rw [(opened_eq_some_iff.mp found).1]
    exact List.prefix_iff_eq_append.mp (List.takeWhile_prefix _)
  have plain : '<' ∉ name.toList := plain_of_check (check_of_opened found)
  have inside := occurrences_append_of_plain plain (text.drop name.toList.length)
  rw [whole] at inside
  rw [occurrences, found, inside]
  rfl

/-- The scan finds at each position the tag that opens there. -/
theorem foundAt_eq_some_iff {text name : String} {position : Nat} :
    foundAt text.toList position = some name ↔ OpensAt text position name := by
  rw [foundAt]
  by_cases bracket : text.toList[position]? = some '<'
  · rw [if_pos bracket, opened_eq_some_iff, eq_takeWhile_iff]
    simp only [Naming.isUpper_iff]
    constructor
    · rintro ⟨⟨isRun, longest⟩, capital⟩
      exact ⟨bracket, isRun, longest, capital⟩
    · rintro ⟨-, isRun, longest, capital⟩
      exact ⟨⟨isRun, longest⟩, capital⟩
  · rw [if_neg bracket]
    constructor
    · rintro ⟨⟩
    · intro opens
      exact absurd opens.bracket bracket

theorem OpensAt.lt_length {text name : String} {position : Nat}
    (opens : OpensAt text position name) : position < text.toList.length :=
  (List.getElem?_eq_some_iff.mp opens.bracket).1

/-- A text refers to the names of its tags, each once and in the order in which they open first. -/
theorem references_exact (text : String) :
    (references text).Nodup ∧
      (∀ name, name ∈ references text ↔ ∃ position, OpensAt text position name) ∧
      ∀ first second, [first, second].Sublist (references text) ↔
        FirstSeen.AppearsBefore (OpensAt text) first second := by
  have scanned : references text =
      FirstSeen.distinct ((List.range text.toList.length).filterMap (foundAt text.toList)) := by
    rw [references, occurrences_eq_filterMap]
  have opens : FirstSeen.Finds (foundAt text.toList) = OpensAt text :=
    funext fun position => funext fun name => propext foundAt_eq_some_iff
  have bounded (position : Nat) (name : String)
      (found : FirstSeen.Finds (foundAt text.toList) position name) :
      position < text.toList.length :=
    (foundAt_eq_some_iff.mp found).lt_length
  constructor
  · exact references_nodup text
  constructor
  · intro name
    rw [scanned, FirstSeen.mem_distinct, List.mem_filterMap]
    constructor
    · rintro ⟨position, -, found⟩
      exact ⟨position, foundAt_eq_some_iff.mp found⟩
    · rintro ⟨position, here⟩
      exact ⟨position, List.mem_range.mpr here.lt_length, foundAt_eq_some_iff.mpr here⟩
  · intro first second
    rw [scanned, FirstSeen.pair_sublist_distinct_iff bounded, opens]

end Tag

end PageLinker
