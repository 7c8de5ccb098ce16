import PageLinker.Page.Tag
import PageLinker.Proofs.Page.FirstSeen
import PageLinker.Proofs.Page.Names

/-!
# References of a text

A text refers to names that follow the naming policy, each listed once, and every such name can be
referred to.  Text in front that opens no tag adds no reference, since every tag starts at its own
bracket.
-/

namespace PageLinker

namespace Tag

/-- The name of a tag follows the naming policy. -/
theorem check_of_opened {text : List Char} {name : String} (found : opened text = some name) :
    Naming.check name = none := by
  rw [opened] at found
  split at found
  · cases found
  · next first rest run =>
      split at found
      · next capital =>
          cases found
          have symbols : (first :: rest).all Naming.isSymbol = true := by
            rw [← run]
            exact List.all_takeWhile
          rw [Naming.check, String.toList_ofList, Naming.brokenRule, symbols, capital]
          rfl
      · cases found

theorem check_of_mem_occurrences {text : List Char} {name : String}
    (listed : name ∈ occurrences text) : Naming.check name = none := by
  induction text with
  | nil => cases listed
  | cons c rest ih =>
      rw [occurrences] at listed
      split at listed
      · split at listed
        · next first found =>
            rcases List.mem_cons.mp listed with rfl | later
            · exact check_of_opened found
            · exact ih later
        · exact ih listed
      · exact ih listed

theorem check_of_mem_references {text name : String} (listed : name ∈ references text) :
    Naming.check name = none :=
  check_of_mem_occurrences (FirstSeen.mem_distinct.mp listed)

theorem references_nodup (text : String) : (references text).Nodup :=
  FirstSeen.nodup_distinct _

/-- Text without an opening bracket holds no tag, whatever follows it. -/
theorem occurrences_append_of_plain {front : List Char} (plain : '<' ∉ front) (text : List Char) :
    occurrences (front ++ text) = occurrences text := by
  induction front with
  | nil => rfl
  | cons c rest ih =>
      obtain ⟨differ, plainRest⟩ := List.ne_and_not_mem_of_not_mem_cons plain
      have other : (c == '<') = false := beq_eq_false_iff_ne.mpr differ.symm
      rw [List.cons_append, occurrences, other]
      exact ih plainRest

theorem references_append_of_plain {front : String} (plain : '<' ∉ front.toList) (text : String) :
    references (front ++ text) = references text := by
  rw [references, references, String.toList_append, occurrences_append_of_plain plain]

/-- No tag opens within a page name. -/
theorem plain_of_check {name : String} (accepted : Naming.check name = none) :
    '<' ∉ name.toList := by
  intro member
  exact absurd (Naming.isSymbol_of_check accepted _ member) (by decide)

/-- A page name behind a bracket is taken in full. -/
theorem opened_of_check {name : String} (accepted : Naming.check name = none) :
    opened name.toList = some name := by
  have whole : name.toList.takeWhile Naming.isSymbol = name.toList := by
    have run : (name.toList ++ []).takeWhile Naming.isSymbol = _ :=
      List.takeWhile_append_of_pos (Naming.isSymbol_of_check accepted)
    simpa using run
  have capital := Naming.check_eq_none_iff.mp accepted .latinCapital
  have written : String.ofList name.toList = name := String.ofList_toList
  rw [opened, whole]
  cases characters : name.toList with
  | nil => exact absurd characters (Naming.toList_ne_nil_of_check accepted)
  | cons first rest =>
      have isUpper : first.isUpper = true := by
        simpa [Naming.Rule.IsBrokenBy, characters] using capital
      rw [characters] at written
      simp [isUpper, written]

theorem occurrences_of_check {name : String} (accepted : Naming.check name = none) :
    occurrences ('<' :: name.toList) = [name] := by
  have nothingInside := occurrences_append_of_plain (plain_of_check accepted) []
  rw [List.append_nil] at nothingInside
  rw [occurrences, opened_of_check accepted, nothingInside]
  rfl

/-- A name follows the policy exactly when a bracket in front of it makes it a reference, and then
it is the only one.  So the page names are the names that some text can refer to. -/
theorem accepted_iff_referred_in_full (name : String) :
    (Naming.check name = none ↔ references ("<" ++ name) = [name]) ∧
      (Naming.check name = none ↔ ∃ text, name ∈ references text) := by
  have referred (accepted : Naming.check name = none) : references ("<" ++ name) = [name] := by
    have written : ("<" ++ name).toList = '<' :: name.toList := String.toList_append
    rw [references, written, occurrences_of_check accepted]
    rfl
  constructor
  · refine ⟨referred, fun found => ?_⟩
    have listed : name ∈ references ("<" ++ name) := by simp [found]
    exact check_of_mem_references listed
  · refine ⟨fun accepted => ⟨"<" ++ name, ?_⟩, ?_⟩
    · rw [referred accepted]
      exact List.mem_singleton_self name
    · rintro ⟨text, listed⟩
      exact check_of_mem_references listed

end Tag

end PageLinker
