import PageLinker.Proofs.Page.Completing
import PageLinker.Proofs.Page.References
import PageLinker.Proofs.Text.Lines

/-!
# Imports that a page needs

A page needs a line for each component that it refers to, and the library line that binds fragments
if it has any.  The block of a page refers to nothing by itself, so a completed page needs no more
than its block holds.
-/

namespace PageLinker

namespace ImportBlock

/-- The text has the import lines that its own references need. -/
structure HasImports (text : String) : Prop where
  components : ∀ name ∈ Tag.references text, name ≠ fragment →
    componentLine name ∈ Lines.pieces text
  fragments : fragment ∈ Tag.references text → opensWith fragmentHeader text = true

theorem hasImports_iff {text : String} :
    HasImports text ↔
      (∀ name ∈ Tag.references text, name ≠ fragment →
        componentLine name ∈ Lines.pieces text) ∧
      (fragment ∈ Tag.references text → opensWith fragmentHeader text = true) :=
  ⟨fun has => ⟨has.components, has.fragments⟩, fun has => ⟨has.1, has.2⟩⟩

instance (text : String) : Decidable (HasImports text) :=
  decidable_of_iff' _ hasImports_iff

/-- A line of a component holds no other characters than its name and some fixed ones. -/
theorem not_mem_componentLine {name : String} (accepted : Naming.check name = none) {c : Char}
    (notSymbol : Naming.isSymbol c = false) (notFixed : c ∉ (componentLine "").toList) :
    c ∉ (componentLine name).toList := by
  have notInName : c ∉ name.toList := by
    intro member
    rw [Naming.isSymbol_of_check accepted c member] at notSymbol
    cases notSymbol
  simp only [componentLine, String.toList_append, List.mem_append, String.toList_empty,
    List.not_mem_nil, not_or, not_false_eq_true, and_true] at notFixed ⊢
  obtain ⟨⟨⟨before, between⟩, place⟩, after⟩ := notFixed
  exact ⟨⟨⟨⟨⟨before, notInName⟩, between⟩, place⟩, notInName⟩, after⟩

/-- A block holds no other characters than symbols, the fixed ones of its lines, and line feeds. -/
theorem not_mem_block {c : Char} (notSymbol : Naming.isSymbol c = false)
    (notFixed : c ∉ (componentLine "" ++ plainHeader ++ fragmentHeader ++ "\n").toList)
    (text : String) : c ∉ (block text).toList := by
  simp only [String.toList_append, List.mem_append, not_or] at notFixed
  obtain ⟨⟨⟨inComponents, inPlain⟩, inFragment⟩, notEnd⟩ := notFixed
  refine Lines.not_mem_terminated (by simpa using notEnd) (List.forall_mem_cons.mpr ⟨?_, ?_⟩)
  · rw [header]
    split
    · exact inFragment
    · exact inPlain
  · intro line listed
    obtain ⟨name, isReference, rfl⟩ := List.mem_map.mp listed
    have accepted := Tag.check_of_mem_references (List.mem_filter.mp isReference).1
    exact not_mem_componentLine accepted notSymbol inComponents

/-- No line of a block opens a tag. -/
theorem block_plain (text : String) : '<' ∉ (block text).toList :=
  not_mem_block (by decide) (by decide) text

/-- A block refers to nothing, whatever it was made for. -/
theorem references_block_append (original text : String) :
    Tag.references (block original ++ text) = Tag.references text :=
  Tag.references_append_of_plain (block_plain original) text

/-- A block has the imports that a text needs when it was made for a text with all its
references. -/
theorem hasImports_block_append {original text : String}
    (within : ∀ name ∈ Tag.references text, name ∈ Tag.references original) :
    HasImports (block original ++ text) where
  components := by
    intro name isReference notFragment
    rw [references_block_append] at isReference
    have accepted := Tag.check_of_mem_references isReference
    refine Lines.mem_pieces_terminated ?_ (not_mem_componentLine accepted (by decide) (by decide))
      text
    refine List.mem_cons_of_mem _ (List.mem_map_of_mem (List.mem_filter.mpr ⟨?_, ?_⟩))
    · exact within name isReference
    · exact bne_iff_ne.mpr notFragment
  fragments := by
    intro needed
    rw [references_block_append] at needed
    have isHeader : header (Tag.references original) = fragmentHeader :=
      if_pos (List.contains_iff_mem.mpr (within fragment needed))
    rw [block, lines, Lines.terminated, isHeader, String.append_assoc]
    exact opensWith_append fragmentHeader _

/-- A completed text has the imports that it needs. -/
theorem hasImports_complete (text : String) : HasImports (complete text) :=
  hasImports_block_append fun _ isReference => isReference

theorem references_complete (text : String) :
    Tag.references (complete text) = Tag.references text :=
  references_block_append text text

/-- A completed text tells its own block, and with it the text behind the block. -/
theorem complete_injective : Function.Injective complete := by
  intro first second same
  have references : Tag.references first = Tag.references second := by
    rw [← references_complete first, same, references_complete second]
  have blocks : block first = block second := by
    rw [block, block, references]
  rw [complete, complete, blocks] at same
  exact (String.append_right_inj _).mp same

/-- Completing a text adds no reference and loses nothing of the text. -/
theorem complete_keeps_references_and_text :
    (∀ text, Tag.references (complete text) = Tag.references text) ∧
      Function.Injective complete :=
  ⟨references_complete, complete_injective⟩

end ImportBlock

end PageLinker
