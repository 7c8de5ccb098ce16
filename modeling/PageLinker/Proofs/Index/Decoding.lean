import PageLinker.Index.Rendering
import PageLinker.Proofs.Index.Sequence
import PageLinker.Proofs.Page.Names
import PageLinker.Proofs.Text.LetterCase
import PageLinker.Proofs.Text.Lines

/-!
# Reading an index back

An index names each module twice on its import line, so the name can be cut out by its length alone.
The property of an entry then tells the key.  Import lines end at the first empty line, so names and
keys that hold no line feed are read back from the text, whatever else they hold.
-/

namespace PageLinker

namespace IndexEntry

/-- Key and name stand on one line each. -/
def IsSingleLine (entry : IndexEntry) : Prop :=
  '\n' ∉ entry.key.toList ∧ '\n' ∉ entry.name.toList

instance (entry : IndexEntry) : Decidable entry.IsSingleLine :=
  inferInstanceAs (Decidable (_ ∧ _))

/-- The name on an import line: it stands there two times, and first behind the word `import`. -/
def importedName (line : String) : String :=
  let fixed := (importLine ⟨"", ""⟩).length
  String.ofList ((line.toList.drop "import ".length).take ((line.length - fixed) / 2))

/-- The key under which a property exports the name. -/
def exportedKey (name property : String) : String :=
  if property = name then name
  else String.ofList (property.toList.take (property.length - (": ".length + name.length)))

/-- The property on a line, without the indent. -/
def unindented (line : String) : String :=
  String.ofList (line.toList.drop 2)

def withoutComma (line : String) : String :=
  String.ofList line.toList.dropLast

/-- The entries of given names, as their property lines export them. -/
def readProperties : List String → List String → List IndexEntry
  | [name], line :: _ => [⟨exportedKey name (unindented line), name⟩]
  | name :: names, line :: lines =>
      ⟨exportedKey name (unindented (withoutComma line)), name⟩ :: readProperties names lines
  | _, _ => []

/-- The entries of an index, read from its text. -/
def read (text : String) : List IndexEntry :=
  let lines := Lines.pieces text
  let imports := lines.takeWhile (· ≠ "")
  readProperties (imports.map importedName) (lines.drop (imports.length + 2))

theorem importedName_importLine (entry : IndexEntry) :
    importedName (importLine entry) = entry.name := by
  have written : (importLine entry).toList = "import ".toList ++
      (entry.name.toList ++ (" from './".toList ++ entry.name.toList ++ "'".toList)) := by
    simp [importLine, source, String.toList_append]
  have length : (importLine entry).length - (importLine ⟨"", ""⟩).length =
      2 * entry.name.toList.length := by
    have fixed : (importLine ⟨"", ""⟩).length = 17 := by decide +kernel
    rw [fixed, ← String.length_toList, written]
    simp
    omega
  rw [importedName, length, Nat.mul_div_cancel_left _ (by decide), written,
    ← String.length_toList, List.drop_left, List.take_left, String.ofList_toList]

theorem exportedKey_property (entry : IndexEntry) :
    exportedKey entry.name entry.property = entry.key := by
  rw [property]
  by_cases shorthand : entry.isShorthand
  · have same : entry.key = entry.name := by simpa [isShorthand] using shorthand
    rw [if_pos shorthand, exportedKey, if_pos rfl, same]
  · have longer : (entry.key ++ ": " ++ entry.name).length =
        entry.key.toList.length + (": ".length + entry.name.length) := by
      rw [String.length_append, String.length_append, String.length_toList, Nat.add_assoc]
    have differ : entry.key ++ ": " ++ entry.name ≠ entry.name := by
      intro same
      have separator : ": ".length = 2 := by decide +kernel
      rw [same] at longer
      omega
    rw [if_neg shorthand, exportedKey, if_neg differ, longer, Nat.add_sub_cancel,
      String.toList_append, String.toList_append, List.append_assoc, List.take_left,
      String.ofList_toList]

@[simp]
theorem unindented_append (text : String) : unindented ("  " ++ text) = text := by
  simp [unindented, String.toList_append]

@[simp]
theorem withoutComma_append (text : String) : withoutComma (text ++ ",") = text := by
  simp [withoutComma, String.toList_append]

theorem propertyLines_cons {entry : IndexEntry} {others : List IndexEntry} (more : others ≠ []) :
    propertyLines (entry :: others) = ("  " ++ entry.property ++ ",") :: propertyLines others :=
  propertyLines.eq_3 entry others more

/-- The entries are read from their property lines, whatever follows these. -/
theorem readProperties_propertyLines (entries : List IndexEntry) (rest : List String) :
    readProperties (entries.map (·.name)) (propertyLines entries ++ rest) = entries := by
  induction entries using propertyLines.induct with
  | case1 => rfl
  | case2 last =>
      simp [propertyLines, readProperties, exportedKey_property]
  | case3 entry others nonempty ih =>
      obtain ⟨next, more, rfl⟩ := List.exists_cons_of_ne_nil nonempty
      rw [propertyLines_cons nonempty, List.map_cons, List.map_cons, List.cons_append,
        readProperties, ← List.map_cons, ih, withoutComma_append, unindented_append,
        exportedKey_property]
      simp

theorem importLine_ne_empty (entry : IndexEntry) : importLine entry ≠ "" := by
  intro empty
  have characters := congrArg String.toList empty
  simp [importLine, String.toList_append] at characters

/-- Every line of an index of single-line entries is a single line. -/
theorem single_of_mem_propertyLines {entries : List IndexEntry}
    (single : ∀ entry ∈ entries, entry.IsSingleLine) :
    ∀ line ∈ propertyLines entries, '\n' ∉ line.toList := by
  have property_single {entry : IndexEntry} (isSingle : entry.IsSingleLine) :
      '\n' ∉ entry.property.toList := by
    rw [property]
    split
    · exact isSingle.2
    · simp [String.toList_append, isSingle.1, isSingle.2]
  induction entries using propertyLines.induct with
  | case1 => simp [propertyLines]
  | case2 last =>
      simp [propertyLines, String.toList_append, property_single (single last (by simp))]
  | case3 entry others nonempty ih =>
      obtain ⟨first, later⟩ := List.forall_mem_cons.mp single
      rw [propertyLines_cons nonempty, List.forall_mem_cons]
      exact ⟨by simp [String.toList_append, property_single first], ih later⟩

theorem pieces_render {entries : List IndexEntry}
    (single : ∀ entry ∈ entries, entry.IsSingleLine) :
    Lines.pieces (render entries) = entries.map importLine ++
      "" :: "export default \x7b" :: (propertyLines entries ++ ["\x7d", ""]) := by
  rw [render, Lines.pieces_terminated]
  · simp
  · simp only [List.forall_mem_append, List.forall_mem_map]
    refine ⟨⟨⟨fun entry listed => ?_, by decide⟩, single_of_mem_propertyLines single⟩, by decide⟩
    simp [importLine, source, String.toList_append, (single entry listed).2]

/-- An index of single-line entries is read back as it was written. -/
theorem read_render {entries : List IndexEntry} (single : ∀ entry ∈ entries, entry.IsSingleLine) :
    read (render entries) = entries := by
  have nonempty : ∀ line ∈ entries.map importLine, decide (line ≠ "") = true := by
    rw [List.forall_mem_map]
    exact fun entry _ => decide_eq_true (importLine_ne_empty entry)
  have imports : (Lines.pieces (render entries)).takeWhile (· ≠ "") = entries.map importLine := by
    rw [pieces_render single, List.takeWhile_append_of_pos nonempty, List.takeWhile_cons_of_neg]
    · exact List.append_nil _
    · simp
  have names : (entries.map importLine).map importedName = entries.map (·.name) := by
    simp [Function.comp_def, importedName_importLine]
  have properties : (Lines.pieces (render entries)).drop ((entries.map importLine).length + 2) =
      propertyLines entries ++ ["\x7d", ""] := by
    rw [pieces_render single, ← List.drop_drop, List.drop_left]
    rfl
  rw [read, imports, names, properties, readProperties_propertyLines]

end IndexEntry

namespace Naming

/-- A page name is a single line, and so is its lower case. -/
theorem isSingleLine_of_check {name : String} (accepted : check name = none) :
    IndexEntry.IsSingleLine ⟨LetterCase.lower name, name⟩ := by
  have ascii : LetterCase.IsAscii name.toList := fun c member =>
    toNat_lt_of_isSymbol (isSymbol_of_check accepted c member)
  have notInName : '\n' ∉ name.toList := fun member =>
    absurd (isSymbol_of_check accepted _ member) (by decide)
  constructor
  · rw [LetterCase.lower, String.toList_ofList, LetterCase.lowerChars,
      LetterCase.lowerFrom_eq_map ascii, List.mem_map]
    rintro ⟨c, member, lowered⟩
    have all : ∀ code < 128, (Char.ofNat code).toLower = '\n' → Char.ofNat code = '\n' := by
      decide
    have isEnd : c = '\n' :=
      LetterCase.forall_ascii (fun c => c.toLower = '\n' → c = '\n') all (ascii c member) lowered
    exact notInName (isEnd ▸ member)
  · exact notInName

end Naming

namespace IndexEntry

theorem render_inj {first second : List IndexEntry}
    (firstSingle : ∀ entry ∈ first, entry.IsSingleLine)
    (secondSingle : ∀ entry ∈ second, entry.IsSingleLine) :
    render first = render second ↔ first = second := by
  constructor
  · intro same
    rw [← read_render firstSingle, same, read_render secondSingle]
  · exact congrArg render

theorem renderMembers_of_check {names : List String}
    (accepted : ∀ name ∈ names, Naming.check name = none) (group : Option String) :
    renderMembers group names = .ok (render (ofMembers names)) := by
  rw [renderMembers, Naming.validateAll_eq_ok_iff.mpr accepted]
  rfl

theorem ofMembers_injective : Function.Injective ofMembers := by
  have names (members : List String) : (ofMembers members).map (·.name) = members := by
    simp [ofMembers, Function.comp_def]
  exact Function.LeftInverse.injective names

theorem ofGroups_injective : Function.Injective ofGroups := by
  have names (groups : List String) : (ofGroups groups).map (·.name) = groups := by
    simp [ofGroups, Function.comp_def]
  exact Function.LeftInverse.injective names

/-- An index tells its entries, if they are single lines.  So the index of a group tells its well
named pages, and the index of a root tells its groups in their order. -/
theorem read_back :
    (∀ entries : List IndexEntry, (∀ entry ∈ entries, entry.IsSingleLine) →
      read (render entries) = entries) ∧
      (∀ first second : List IndexEntry, (∀ entry ∈ first, entry.IsSingleLine) →
        (∀ entry ∈ second, entry.IsSingleLine) →
          (render first = render second ↔ first = second)) ∧
      (∀ (first second : List String) (group other : Option String),
        (∀ name ∈ first, Naming.check name = none) →
        (∀ name ∈ second, Naming.check name = none) →
          ∃ firstText secondText, renderMembers group first = .ok firstText ∧
            renderMembers other second = .ok secondText ∧
            (firstText = secondText ↔ first = second)) ∧
      ∀ first second : List String, (∀ name ∈ first, '\n' ∉ name.toList) →
        (∀ name ∈ second, '\n' ∉ name.toList) →
          (renderGroups first = renderGroups second ↔ first = second) := by
  have membersSingle {names : List String}
      (accepted : ∀ name ∈ names, Naming.check name = none) :
      ∀ entry ∈ ofMembers names, entry.IsSingleLine := by
    rw [ofMembers, List.forall_mem_map]
    exact fun name listed => Naming.isSingleLine_of_check (accepted name listed)
  have groupsSingle {names : List String} (single : ∀ name ∈ names, '\n' ∉ name.toList) :
      ∀ entry ∈ ofGroups names, entry.IsSingleLine := by
    rw [ofGroups, List.forall_mem_map]
    exact fun name listed => ⟨single name listed, single name listed⟩
  refine ⟨fun entries => read_render, fun first second => render_inj, ?_, ?_⟩
  · intro first second group other firstAccepted secondAccepted
    refine ⟨_, _, renderMembers_of_check firstAccepted group,
      renderMembers_of_check secondAccepted other, ?_⟩
    rw [render_inj (membersSingle firstAccepted) (membersSingle secondAccepted),
      ofMembers_injective.eq_iff]
  · intro first second firstSingle secondSingle
    rw [renderGroups, renderGroups, render_inj (groupsSingle firstSingle)
      (groupsSingle secondSingle), ofGroups_injective.eq_iff]

/-- Indexes whose properties look alike are told apart by their import lines. -/
theorem read_back_of_separators :
    let first : List IndexEntry := [⟨"b: c", "a"⟩, ⟨"d", "d,"⟩]
    let second : List IndexEntry := [⟨"b", "c: a"⟩, ⟨"d", "d,"⟩]
    propertyLines first = propertyLines second ∧
      (∀ entry ∈ first, entry.IsSingleLine) ∧ (∀ entry ∈ second, entry.IsSingleLine) ∧
      read (render first) = first ∧ render first ≠ render second ∧
      (∀ name ∈ ["INTRO", "Intro"], Naming.check name = none) ∧
      (∃ text other, renderMembers (some "en") ["INTRO", "Intro"] = .ok text ∧
        renderMembers none ["Intro", "INTRO"] = .ok other ∧ text ≠ other) ∧
      renderGroups ["en", "ru'"] ≠ renderGroups ["en,", "ru"] := by
  intro first second
  obtain ⟨readBack, entries, members, groups⟩ := read_back
  have firstSingle : ∀ entry ∈ first, entry.IsSingleLine := by decide
  have secondSingle : ∀ entry ∈ second, entry.IsSingleLine := by decide
  have accepted : ∀ name ∈ ["INTRO", "Intro"], Naming.check name = none := by decide
  obtain ⟨text, other, rendered, renderedOther, same⟩ :=
    members ["INTRO", "Intro"] ["Intro", "INTRO"] (some "en") none accepted (by decide)
  refine ⟨by decide +kernel, firstSingle, secondSingle, readBack first firstSingle, ?_, accepted,
    ⟨text, other, rendered, renderedOther, ?_⟩, ?_⟩
  · rw [ne_eq, entries first second firstSingle secondSingle]
    decide
  · rw [ne_eq, same]
    decide
  · rw [ne_eq, groups _ _ (by decide) (by decide)]
    decide

end IndexEntry

end PageLinker
