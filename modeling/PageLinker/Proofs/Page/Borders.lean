import Mathlib.Data.List.TakeWhile
import PageLinker.Proofs.Page.FirstPlaces
import PageLinker.Proofs.Page.References

/-!
# Texts put together

A tag reaches over the border between two texts only where a bracket or a word character stands in
front of the border and a word character behind it.  Everywhere else the two texts hold together the
tags that each of them holds.
-/

namespace PageLinker

namespace Tag

/-- No tag reaches over the border between the two texts: one of them is empty, the first one ends
in neither a bracket nor a word character, or the second one starts with no word character. -/
def AreApart (front back : String) : Prop :=
  front = "" ∨ back = "" ∨
    (∃ last ∈ front.toList.getLast?, last ≠ '<' ∧ ¬ Naming.IsWordCharacter last) ∨
    ∃ first ∈ back.toList.head?, ¬ Naming.IsWordCharacter first

/-- No tag of the first text goes on in the second one. -/
def EndsTags (front back : List Char) : Prop :=
  (∃ last ∈ front.getLast?, last ≠ '<' ∧ Naming.isSymbol last = false) ∨
    ∀ first ∈ back.head?, Naming.isSymbol first = false

theorem AreApart.endsTags {front back : String} (apart : AreApart front back) :
    front = "" ∨ EndsTags front.toList back.toList := by
  have notSymbol {c : Char} (other : ¬ Naming.IsWordCharacter c) : Naming.isSymbol c = false :=
    Bool.eq_false_iff.mpr fun symbol => other (Naming.isSymbol_iff.mp symbol)
  rcases apart with empty | rfl | ⟨last, ends, notBracket, notWord⟩ | ⟨first, starts, notWord⟩
  · exact .inl empty
  · exact .inr (.inr (by simp))
  · exact .inr (.inl ⟨last, ends, notBracket, notSymbol notWord⟩)
  · refine .inr (.inr fun other isFirst => ?_)
    obtain rfl := Option.some.inj (starts.symm.trans isFirst)
    exact notSymbol notWord

namespace EndsTags

variable {c : Char} {front back : List Char}

theorem tail (ends : EndsTags (c :: front) back) (more : front ≠ []) : EndsTags front back := by
  refine ends.imp_left ?_
  rintro ⟨last, isLast, other⟩
  rw [List.getLast?_cons_of_ne_nil more] at isLast
  exact ⟨last, isLast, other⟩

/-- The name behind a bracket is cut by the border in neither way. -/
theorem opened_append (ends : EndsTags ('<' :: front) back) :
    opened (front ++ back) = opened front := by
  have sameRun : (front ++ back).takeWhile Naming.isSymbol = front.takeWhile Naming.isSymbol := by
    rw [List.takeWhile_append]
    split
    · next whole =>
        have run : front.takeWhile Naming.isSymbol = front :=
          (List.takeWhile_prefix _).eq_of_length whole
        rcases ends with ⟨last, isLast, notBracket, notSymbol⟩ | stops
        · -- The text in front consists of symbols, so its end cannot be another character.
          have symbols : ∀ symbol ∈ front, Naming.isSymbol symbol = true :=
            List.takeWhile_eq_self_iff.mp run
          rcases List.mem_cons.mp (List.mem_of_getLast? isLast) with rfl | inFront
          · exact absurd rfl notBracket
          · cases notSymbol.symm.trans (symbols last inFront)
        · have nothing : back.takeWhile Naming.isSymbol = [] := by
            cases back with
            | nil => rfl
            | cons first rest =>
                rw [List.takeWhile_cons, stops first rfl]
                rfl
          rw [nothing, List.append_nil, run]
    · rfl
  rw [opened, opened, sameRun]

/-- The tags of two texts that are put together are those of the first and those of the second. -/
theorem occurrences_append (ends : EndsTags front back) :
    occurrences (front ++ back) = occurrences front ++ occurrences back := by
  induction front with
  | nil => rfl
  | cons c rest ih =>
      have later : occurrences (rest ++ back) = occurrences rest ++ occurrences back := by
        by_cases last : rest = []
        · subst last
          rfl
        · exact ih (ends.tail last)
      rw [List.cons_append, occurrences, occurrences, later]
      by_cases bracket : c = '<'
      · subst bracket
        rw [ends.opened_append]
        cases opened rest <;> rfl
      · simp [bracket]

end EndsTags

/-- Where no tag reaches over the border, two texts refer together to the names that they refer to
one after the other. -/
theorem references_append {front back : String} (apart : AreApart front back) :
    references (front ++ back) = FirstSeen.distinct (references front ++ references back) := by
  have together : occurrences (front ++ back).toList =
      occurrences front.toList ++ occurrences back.toList := by
    rw [String.toList_append]
    rcases apart.endsTags with rfl | ends
    · rfl
    · exact ends.occurrences_append
  rw [references, references, references, together, FirstSeen.distinct_append_distinct]

/-- The border stands right behind the name of a tag. -/
theorem references_append_behind_name :
    AreApart "<Note><A" "/><Note/>" ∧
      references ("<Note><A" ++ "/><Note/>") =
        FirstSeen.distinct (references "<Note><A" ++ references "/><Note/>") ∧
      references ("<Note><A" ++ "/><Note/>") = ["Note", "A"] := by
  have apart : AreApart "<Note><A" "/><Note/>" := by
    refine .inr (.inr (.inr ⟨'/', by decide, fun word => ?_⟩))
    exact absurd (Naming.isSymbol_iff.mpr word) (by decide)
  exact ⟨apart, references_append apart, by decide +kernel⟩

end Tag

end PageLinker
