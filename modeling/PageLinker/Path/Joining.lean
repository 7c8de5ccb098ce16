import PageLinker.Path

/-!
# Joining and reading paths

A path that is written out and read again is the same path, and joining a proper name to a path
puts that name behind its steps.
-/

namespace PageLinker

namespace Path

theorem ofString_eq_of_parts {text : String} {path : Path}
    (anchor : anchorOf text.toList = path.anchor)
    (components : componentsOf text.toList = path.components) : ofString text = path := by
  cases path
  simp only at anchor components
  subst anchor components
  rfl

/-- A slash in front of a text adds no component. -/
@[simp]
theorem componentsOf_slash (text : List Char) :
    componentsOf ('/' :: text) = componentsOf text := by
  have split := List.splitOn_append_cons_self (a := '/') [] text
  rw [List.nil_append, List.splitOn_nil, List.singleton_append] at split
  rw [componentsOf, componentsOf, split]
  rfl

/-- Proper names with slashes between them are read back. -/
theorem componentsOf_intercalate {names : List String}
    (proper : ∀ name ∈ names, IsComponent name) :
    componentsOf ("/".intercalate names).toList = names := by
  match names with
  | [] => rfl
  | first :: rest =>
      have split : ("/".intercalate (first :: rest)).toList.splitOn '/' =
          (first :: rest).map String.toList := by
        rw [String.toList_intercalate]
        refine List.splitOn_intercalate '/' ?_ (by simp)
        intro characters member
        obtain ⟨name, nameMember, rfl⟩ := List.mem_map.mp member
        exact (proper name nameMember).2.2
      rw [componentsOf, split, List.map_map, String.ofList_comp_toList, List.map_id,
        List.filter_eq_self]
      exact fun name member => decide_eq_true (proper name member)

/-- A text of proper names with slashes between them is empty or starts with another character
than a slash. -/
theorem intercalate_start {names : List String} (proper : ∀ name ∈ names, IsComponent name) :
    ("/".intercalate names).toList = [] ∨
      ∃ c rest, c ≠ '/' ∧ ("/".intercalate names).toList = c :: rest := by
  match names with
  | [] => exact .inl rfl
  | first :: later =>
      have component := proper first (by simp)
      refine .inr ?_
      match characters : first.toList with
      | [] =>
          refine absurd ?_ component.1
          rw [← String.ofList_toList (s := first), characters]
      | c :: rest =>
          have notSlash : c ≠ '/' := by
            rintro rfl
            exact component.2.2 (by rw [characters]; exact List.mem_cons_self)
          cases later with
          | nil => exact ⟨c, rest, notSlash, by simp [characters]⟩
          | cons second others =>
              exact ⟨c, _, notSlash, by
                rw [String.intercalate_cons_cons, String.toList_append, String.toList_append,
                  characters, List.cons_append, List.cons_append]⟩

theorem anchorOf_of_ne_slash {c : Char} (notSlash : c ≠ '/') (rest : List Char) :
    anchorOf (c :: rest) = .here := by
  unfold anchorOf
  split <;> simp_all

/-- A path that is written out and read again is the same path. -/
@[simp]
theorem ofString_toString (path : Path) : ofString path.toString = path := by
  have start := intercalate_start path.proper
  have components := componentsOf_intercalate path.proper
  generalize inner : "/".intercalate path.components = text at start components
  by_cases empty : path.anchor = .here ∧ path.components = []
  · rw [toString, if_pos empty]
    exact ofString_eq_of_parts (empty.1 ▸ rfl) (empty.2 ▸ rfl)
  · rw [toString, if_neg empty, inner]
    have written : (path.anchor.text ++ text).toList = path.anchor.text.toList ++ text.toList :=
      String.toList_append
    refine ofString_eq_of_parts ?_ ?_ <;> rw [written]
    · match anchor : path.anchor with
      | .here =>
          rcases start with nothing | ⟨c, rest, notSlash, begins⟩
          · refine absurd ⟨anchor, ?_⟩ empty
            rw [← components, nothing]
            rfl
          · rw [begins]
            exact anchorOf_of_ne_slash notSlash rest
      | .root =>
          rcases start with nothing | ⟨c, rest, notSlash, begins⟩
          · rw [nothing]
            rfl
          · rw [begins]
            simp [Anchor.text, anchorOf, notSlash]
      | .doubleRoot =>
          rcases start with nothing | ⟨c, rest, notSlash, begins⟩
          · rw [nothing]
            rfl
          · rw [begins]
            simp [Anchor.text, anchorOf, notSlash]
    · match anchor : path.anchor with
      | .here => exact components
      | .root => exact (componentsOf_slash _).trans components
      | .doubleRoot =>
          exact (componentsOf_slash _).trans ((componentsOf_slash _).trans components)

/-- A proper name is a path of one component. -/
theorem ofString_of_isComponent {name : String} (component : IsComponent name) :
    ofString name = ⟨.here, [name], by simpa using component⟩ := by
  have read := ofString_toString ⟨.here, [name], by simpa using component⟩
  simpa [toString, Anchor.text] using read

/-- Joining a proper name puts it behind the components. -/
theorem join_of_isComponent (path : Path) {name : String} (component : IsComponent name) :
    (path.join name).anchor = path.anchor ∧
      (path.join name).components = path.components ++ [name] := by
  rw [join, ofString_of_isComponent component]
  exact ⟨rfl, rfl⟩

/-- Joining a proper name is one more step. -/
theorem steps_join (path : Path) {name : String} (component : IsComponent name) :
    (path.join name).steps = path.steps ++ [name] := by
  obtain ⟨anchor, components⟩ := path.join_of_isComponent component
  rw [steps, steps, anchor, components, List.append_assoc]

/-- Different paths have different steps. -/
theorem steps_injective {first second : Path} (same : first.steps = second.steps) :
    first = second := by
  rw [← ofSteps_steps first, same, ofSteps_steps]

end Path

end PageLinker
