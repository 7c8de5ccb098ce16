import PageLinker.Text.Lines

/-!
# Lines of a text

A text is cut into pieces at its line feeds.  Lines that hold no line feed themselves are found
again among the pieces of the text that they make up.  Unifying the line ends of a text leaves no
carriage return, and keeps the text exactly when there was none.
-/

namespace PageLinker

namespace Lines

/-- The pieces of a text between its line feeds. -/
def pieces (text : String) : List String :=
  (text.toList.splitOn '\n').map String.ofList

theorem pieces_line_append (line rest : String) :
    pieces (line ++ "\n" ++ rest) = pieces line ++ pieces rest := by
  have written : (line ++ "\n" ++ rest).toList = line.toList ++ '\n' :: rest.toList := by
    simp [String.toList_append]
  rw [pieces, written, List.splitOn_append_cons_self, List.map_append]
  rfl

theorem pieces_of_single {line : String} (single : '\n' ∉ line.toList) :
    pieces line = [line] := by
  rw [pieces, List.splitOn_eq_singleton single]
  simp

theorem mem_pieces_terminated {lines : List String} {line : String} (listed : line ∈ lines)
    (single : '\n' ∉ line.toList) (rest : String) : line ∈ pieces (terminated lines ++ rest) := by
  induction lines with
  | nil => cases listed
  | cons first others ih =>
      rw [terminated, String.append_assoc, pieces_line_append, List.mem_append]
      rcases List.mem_cons.mp listed with rfl | later
      · exact .inl (by simp [pieces_of_single single])
      · exact .inr (ih later)

/-- A text of single lines falls into these lines and an empty rest. -/
theorem pieces_terminated {lines : List String} (single : ∀ line ∈ lines, '\n' ∉ line.toList) :
    pieces (terminated lines) = lines ++ [""] := by
  induction lines with
  | nil => rfl
  | cons first others ih =>
      obtain ⟨singleFirst, singleOthers⟩ := List.forall_mem_cons.mp single
      rw [terminated, pieces_line_append, pieces_of_single singleFirst, ih singleOthers]
      rfl

theorem not_mem_terminated {lines : List String} {c : Char} (notEnd : c ≠ '\n')
    (apart : ∀ line ∈ lines, c ∉ line.toList) : c ∉ (terminated lines).toList := by
  induction lines with
  | nil => simp [terminated]
  | cons first others ih =>
      obtain ⟨inFirst, inOthers⟩ := List.forall_mem_cons.mp apart
      simp [terminated, String.toList_append, inFirst, notEnd, ih inOthers]

theorem unifyEnds_cons {c : Char} (notReturn : c ≠ '\r') (rest : List Char) :
    unifyEnds (c :: rest) = c :: unifyEnds rest := by
  rw [unifyEnds.eq_def (c :: rest)]
  split
  · simp_all
  · simp_all
  · next same =>
      cases same
      rfl
  · next same => cases same

theorem unifyEnds_append {opening : List Char} (noReturn : '\r' ∉ opening) (rest : List Char) :
    unifyEnds (opening ++ rest) = opening ++ unifyEnds rest := by
  induction opening with
  | nil => rfl
  | cons c later ih =>
      have notReturn : c ≠ '\r' := fun same => noReturn (by simp [same])
      have noReturnLater : '\r' ∉ later := fun member => noReturn (by simp [member])
      rw [List.cons_append, unifyEnds_cons notReturn, ih noReturnLater, List.cons_append]

theorem not_mem_unifyEnds (text : List Char) : '\r' ∉ unifyEnds text := by
  fun_induction unifyEnds text with
  | case1 rest ih => simp [ih]
  | case2 rest _ ih => simp [ih]
  | case3 c rest _ notReturn ih => simp [ih, Ne.symm notReturn]
  | case4 => simp

theorem unified_eq_self_iff {text : String} : unified text = text ↔ '\r' ∉ text.toList := by
  constructor
  · intro same
    rw [← same, unified, String.toList_ofList]
    exact not_mem_unifyEnds text.toList
  · intro noReturn
    have kept := unifyEnds_append noReturn []
    rw [List.append_nil] at kept
    rw [unified, kept]
    simp [unifyEnds]

end Lines

end PageLinker
