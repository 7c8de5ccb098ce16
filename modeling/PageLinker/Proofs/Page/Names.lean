import PageLinker.Naming

/-!
# Rules of the naming policy, one by one

Every rule says by itself which names break it.  The check of a name searches the rules in their
order, so it reports the first one that is broken, and a name passes when it breaks none.
-/

namespace PageLinker

namespace Naming

/-- The character lies in one of the ranges `A` to `Z`, `a` to `z` and `0` to `9`, or is an
underscore. -/
def IsWordCharacter (c : Char) : Prop :=
  ('A' ≤ c ∧ c ≤ 'Z') ∨ ('a' ≤ c ∧ c ≤ 'z') ∨ ('0' ≤ c ∧ c ≤ '9') ∨ c = '_'

theorem isUpper_iff {c : Char} : c.isUpper = true ↔ 'A' ≤ c ∧ c ≤ 'Z' :=
  decide_eq_true_iff

theorem isSymbol_iff {c : Char} : isSymbol c = true ↔ IsWordCharacter c := by
  have range (first last : Char) :
      (decide (first.val ≤ c.val) && decide (c.val ≤ last.val)) = true ↔ first ≤ c ∧ c ≤ last := by
    rw [Bool.and_eq_true, decide_eq_true_iff, decide_eq_true_iff]
    rfl
  have isLower_iff : c.isLower = true ↔ 'a' ≤ c ∧ c ≤ 'z' := range 'a' 'z'
  have isDigit_iff : c.isDigit = true ↔ '0' ≤ c ∧ c ≤ '9' := range '0' '9'
  have alternatives : isSymbol c = (((c.isUpper || c.isLower) || c.isDigit) || c == '_') := rfl
  rw [alternatives, Bool.or_eq_true, Bool.or_eq_true, Bool.or_eq_true, isUpper_iff, isLower_iff,
    isDigit_iff, beq_iff_eq, IsWordCharacter, or_assoc, or_assoc]

theorem toNat_lt_of_isSymbol {c : Char} (symbol : isSymbol c = true) : c.toNat < 128 := by
  have ranges := isSymbol_iff.mp symbol
  simp only [IsWordCharacter, Char.le_def, UInt32.le_iff_toNat_le] at ranges
  rcases ranges with ⟨-, le⟩ | ⟨-, le⟩ | ⟨-, le⟩ | rfl
  · exact Nat.lt_of_le_of_lt le (by decide)
  · exact Nat.lt_of_le_of_lt le (by decide)
  · exact Nat.lt_of_le_of_lt le (by decide)
  · decide

/-- The rules in the order of the policy. -/
def Rule.inOrder : List Rule :=
  [.notEmpty, .allowedSymbols, .latinCapital]

/-- The name breaks the rule, whatever the other rules say about it. -/
def Rule.IsBrokenBy : Rule → String → Prop
  | .notEmpty, name => name = ""
  | .allowedSymbols, name => ∃ c ∈ name.toList, isSymbol c = false
  | .latinCapital, name => ∀ c ∈ name.toList.head?, c.isUpper = false

instance (rule : Rule) (name : String) : Decidable (rule.IsBrokenBy name) :=
  match rule with
  | .notEmpty => inferInstanceAs (Decidable (name = ""))
  | .allowedSymbols => inferInstanceAs (Decidable (∃ c ∈ name.toList, isSymbol c = false))
  | .latinCapital => inferInstanceAs (Decidable (∀ c ∈ name.toList.head?, c.isUpper = false))

theorem Rule.mem_inOrder (rule : Rule) : rule ∈ inOrder := by
  cases rule <;> decide

/-- Checking a name finds the first rule that it breaks. -/
theorem check_eq_find? (name : String) :
    check name = Rule.inOrder.find? fun rule => rule.IsBrokenBy name := by
  have notEmpty : Rule.notEmpty.IsBrokenBy name ↔ name.toList = [] := by
    rw [Rule.IsBrokenBy, String.toList_eq_nil_iff]
  rw [check, Rule.inOrder]
  cases characters : name.toList with
  | nil => simp [brokenRule, notEmpty, characters]
  | cons first rest =>
      have symbols : Rule.allowedSymbols.IsBrokenBy name ↔
          (first :: rest).all isSymbol = false := by
        rw [Rule.IsBrokenBy, characters, List.all_eq_false]
        simp
      have capital : Rule.latinCapital.IsBrokenBy name ↔ first.isUpper = false := by
        simp [Rule.IsBrokenBy, characters]
      cases allSymbols : (first :: rest).all isSymbol <;> cases isCapital : first.isUpper <;>
        simp [brokenRule, notEmpty, symbols, capital, characters, allSymbols, isCapital]

theorem check_eq_none_iff {name : String} :
    check name = none ↔ ∀ rule : Rule, ¬ rule.IsBrokenBy name := by
  simp [check_eq_find?, List.find?_eq_none, Rule.mem_inOrder]

section Accepted

variable {name : String} (accepted : check name = none)
include accepted

theorem isSymbol_of_check : ∀ c ∈ name.toList, isSymbol c = true := by
  intro c member
  cases isOne : isSymbol c with
  | true => rfl
  | false => exact absurd ⟨c, member, isOne⟩ (check_eq_none_iff.mp accepted .allowedSymbols)

theorem toList_ne_nil_of_check : name.toList ≠ [] := by
  intro empty
  exact check_eq_none_iff.mp accepted .notEmpty (String.toList_eq_nil_iff.mp empty)

end Accepted

end Naming

end PageLinker
