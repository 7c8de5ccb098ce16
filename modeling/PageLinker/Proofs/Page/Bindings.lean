import Mathlib.Data.List.Nodup
import PageLinker.Page.ImportBlock
import PageLinker.Proofs.Page.References

/-!
# Names that an import block binds

An import line binds the words between `import` and `from`.  The lines of a block bind the library,
its fragments if the page needs them, and every other component that the page refers to.  The
references are distinct and fragments have no line of their own, so only a component that is called
like the library is bound twice.
-/

namespace PageLinker

/-- The runs of symbols in a text. -/
def words (text : List Char) : List String :=
  ((text.splitOnP fun c => !Naming.isSymbol c).filter (· ≠ [])).map String.ofList

theorem words_append_cons (before after : List Char) {gap : Char}
    (notSymbol : Naming.isSymbol gap = false) :
    words (before ++ gap :: after) = words before ++ words after := by
  rw [words, List.splitOnP_append_cons before after (by simp [notSymbol]), List.filter_append,
    List.map_append]
  rfl

/-- A page name is one word. -/
theorem words_of_check {name : String} (accepted : Naming.check name = none) :
    words name.toList = [name] := by
  have whole : (name.toList.splitOnP fun c => !Naming.isSymbol c) = [name.toList] := by
    refine List.splitOnP_eq_singleton fun c member => ?_
    simp [Naming.isSymbol_of_check accepted c member]
  rw [words, whole]
  simp [Naming.toList_ne_nil_of_check accepted]

namespace ImportBlock

/-- The name that a library line binds to the library itself. -/
def library : String := "React"

/-- The names that an import line binds: the words after the first one, up to `from`. -/
def boundNames (line : String) : List String :=
  (words line.toList).tail.takeWhile (· ≠ "from")

theorem boundNames_plainHeader : boundNames plainHeader = [library] := by
  decide +kernel

theorem boundNames_fragmentHeader : boundNames fragmentHeader = [library, fragment] := by
  decide +kernel

theorem boundNames_componentLine {name : String} (accepted : Naming.check name = none) :
    boundNames (componentLine name) = [name] := by
  have written : (componentLine name).toList = "import".toList ++ ' ' :: (name.toList ++ ' ' ::
      ("from".toList ++ ' ' :: ("'" ++ componentRoot ++ name ++ "'").toList)) := by
    simp [componentLine, String.toList_append]
  have notFrom : name ≠ "from" := by
    rintro rfl
    exact absurd accepted (by decide)
  have first : words "import".toList = ["import"] := by decide +kernel
  have source : words "from".toList = ["from"] := by decide +kernel
  rw [boundNames, written, words_append_cons _ _ (by decide), words_append_cons _ _ (by decide),
    words_append_cons _ _ (by decide), words_of_check accepted, first, source]
  simp [notFrom]

/-- The lines of a block bind the library, perhaps fragments, and the other references. -/
theorem boundNames_lines {references : List String}
    (accepted : ∀ name ∈ references, Naming.check name = none) :
    (lines references).flatMap boundNames =
      library :: ((if fragment ∈ references then [fragment] else []) ++
        references.filter (· != fragment)) := by
  have components : ((references.filter (· != fragment)).map componentLine).flatMap boundNames =
      references.filter (· != fragment) := by
    rw [List.flatMap_map]
    refine (List.flatMap_congr fun name listed => ?_).trans (List.flatMap_singleton' _)
    exact boundNames_componentLine (accepted name (List.mem_filter.mp listed).1)
  rw [lines, List.flatMap_cons, components, header]
  by_cases needed : fragment ∈ references
  · simp [needed, boundNames_fragmentHeader]
  · simp [needed, boundNames_plainHeader]

/-- The block of a text binds every name once, unless the text refers to a component that is called
like the library. -/
theorem boundNames_nodup_iff (text : String) :
    ((lines (Tag.references text)).flatMap boundNames).Nodup ↔
      library ∉ Tag.references text := by
  have others : ((Tag.references text).filter (· != fragment)).Nodup :=
    (Tag.references_nodup text).filter _
  have differ : library ≠ fragment := by decide
  rw [boundNames_lines fun name => Tag.check_of_mem_references, List.nodup_cons]
  by_cases needed : fragment ∈ Tag.references text
  · simp [needed, others, differ]
  · simp [needed, others, differ]

/-- A tag of the library itself makes the block bind its name a second time. -/
theorem library_bound_twice :
    let names := (lines (Tag.references "<React.Fragment></React.Fragment>")).flatMap boundNames
    names = [library, library] ∧ ¬ names.Nodup := by
  decide +kernel

end ImportBlock

end PageLinker
