import PageLinker.Proofs.Build.Keys
import PageLinker.Proofs.Index.Decoding

/-!
# Names that indexes import

Every import line of an index binds a name, which has to be an identifier.  Page names are checked
before the index of their group is written, and a well named page is an identifier.  The names of
groups are the names of directories and nobody checks them, so the index of the root imports
identifiers exactly when all these directories happen to be called by one.
-/

namespace PageLinker

theorem IndexEntry.indented_of_mem_propertyLines {entries : List IndexEntry} :
    ∀ line ∈ propertyLines entries, ∃ property, line = "  " ++ property := by
  induction entries using propertyLines.induct with
  | case1 => simp [propertyLines]
  | case2 last => simp [propertyLines]
  | case3 entry others nonempty ih =>
      rw [propertyLines_cons nonempty, List.forall_mem_cons]
      exact ⟨⟨entry.property ++ ",", String.append_assoc ..⟩, ih⟩

/-- Which characters count as letters: the Latin ones at least, and no line feed. -/
structure Alphabet where
  isLetter : Char → Bool
  latin : ∀ c, c.isAlpha = true → isLetter c = true
  noLineFeed : isLetter '\n' = false

namespace Alphabet

/-- The letters from `A` to `Z` and from `a` to `z`. -/
def basic : Alphabet where
  isLetter := Char.isAlpha
  latin := fun _ isAlpha => isAlpha
  noLineFeed := rfl

variable (alphabet : Alphabet)

/-- The character can stand in an identifier. -/
def isPart (c : Char) : Bool :=
  alphabet.isLetter c || c.isDigit || c == '_' || c == '$'

/-- The name is made of letters, digits, `_` and `$`, and does not begin with a digit. -/
def IsIdentifier (name : String) : Prop :=
  name ≠ "" ∧ (∀ c ∈ name.toList, alphabet.isPart c = true) ∧
    ∀ c ∈ name.toList.head?, c.isDigit = false

instance (name : String) : Decidable (alphabet.IsIdentifier name) :=
  decidable_of_iff (name ≠ "" ∧ name.toList.all alphabet.isPart = true ∧
      name.toList.head?.all (fun c => !c.isDigit) = true)
    (by simp only [IsIdentifier, List.all_eq_true, Option.all_eq_true, Bool.not_eq_true',
      Option.mem_def])

/-- Every line of the text that starts with `import` imports a module under an identifier. -/
def ImportsIdentifiers (text : String) : Prop :=
  ∀ line ∈ Lines.pieces text, "import ".toList <+: line.toList →
    ∃ name, alphabet.IsIdentifier name ∧ line = IndexEntry.importLine ⟨name, name⟩

variable {alphabet} {name : String}

theorem not_mem_of_isIdentifier (identifier : alphabet.IsIdentifier name) : '\n' ∉ name.toList := by
  intro member
  have isPart := identifier.2.1 _ member
  simp [Alphabet.isPart, alphabet.noLineFeed] at isPart

/-- A well named page is called by an identifier, whatever counts as a letter. -/
theorem isIdentifier_of_check (accepted : Naming.check name = none) :
    alphabet.IsIdentifier name := by
  have unbroken := Naming.check_eq_none_iff.mp accepted
  refine ⟨unbroken .notEmpty, fun c member => ?_, fun c first => ?_⟩
  · have symbol := Naming.isSymbol_of_check accepted c member
    rw [Naming.isSymbol, Char.isAlphanum, Bool.or_eq_true, Bool.or_eq_true] at symbol
    rcases symbol with (letter | digit) | underscore
    · simp [Alphabet.isPart, alphabet.latin c letter]
    · simp [Alphabet.isPart, digit]
    · simp [Alphabet.isPart, underscore]
  · have capital : c.isUpper = true := by
      by_contra notUpper
      refine unbroken .latinCapital fun other otherFirst => ?_
      obtain rfl : c = other := Option.some.inj (first.symm.trans otherFirst)
      exact Bool.eq_false_iff.mpr notUpper
    have all : ∀ code < 128, (Char.ofNat code).isUpper = true →
        (Char.ofNat code).isDigit = false := by
      decide
    have ascii := Naming.toNat_lt_of_isSymbol
      (Naming.isSymbol_of_check accepted c (List.mem_of_mem_head? first))
    exact LetterCase.forall_ascii (fun c => c.isUpper = true → c.isDigit = false) all ascii capital

section Lines

/-- A text imports identifiers when all its lines do. -/
theorem importsIdentifiers_terminated_iff {lines : List String} :
    alphabet.ImportsIdentifiers (Lines.terminated lines) ↔
      ∀ line ∈ lines, alphabet.ImportsIdentifiers line := by
  induction lines with
  | nil =>
      have empty : Lines.pieces (Lines.terminated []) = [""] := by decide
      simp [ImportsIdentifiers, empty]
  | cons first others ih =>
      rw [List.forall_mem_cons, ← ih, Lines.terminated]
      simp only [ImportsIdentifiers, Lines.pieces_line_append, List.forall_mem_append]

theorem importsIdentifiers_of_other {line : String} (single : '\n' ∉ line.toList)
    (other : line.toList.head? ≠ some 'i') : alphabet.ImportsIdentifiers line := by
  rw [ImportsIdentifiers, Lines.pieces_of_single single]
  rintro _ (⟨⟩ | ⟨_, ⟨⟩⟩) ⟨rest, whole⟩
  exact absurd (by simp [← whole]) other

open IndexEntry (importLine importedName_importLine)

variable {entry : IndexEntry}

theorem toList_importLine (entry : IndexEntry) : (importLine entry).toList =
    "import ".toList ++ (entry.name.toList ++ (" from './" ++ entry.name ++ "'").toList) := by
  simp [importLine, IndexEntry.source, String.toList_append]

/-- A line that breaks inside the name begins with a line that has no slash, so it imports
nothing. -/
theorem not_importsIdentifiers_of_broken (noSlash : '/' ∉ entry.name.toList)
    (broken : '\n' ∈ entry.name.toList) : ¬ alphabet.ImportsIdentifiers (importLine entry) := by
  intro imports
  obtain ⟨front, back, parts, singleFront⟩ := List.eq_append_cons_of_mem broken
  have lines : importLine entry = ("import " ++ String.ofList front) ++ "\n" ++
      (String.ofList back ++ (" from './" ++ entry.name ++ "'")) := by
    refine String.toList_injective ?_
    rw [toList_importLine, parts]
    simp [String.toList_append]
  have beginning : '\n' ∉ ("import " ++ String.ofList front).toList := by
    simp [String.toList_append, singleFront]
  rw [lines, ImportsIdentifiers, Lines.pieces_line_append, Lines.pieces_of_single beginning]
    at imports
  obtain ⟨name, -, same⟩ := imports ("import " ++ String.ofList front) (by simp)
    (by simp [String.toList_append])
  have slash : '/' ∈ ("import " ++ String.ofList front).toList := by
    simp [same, importLine, IndexEntry.source, String.toList_append]
  have inFront : '/' ∈ front := by simpa [String.toList_append] using slash
  exact noSlash (by simp [parts, inFront])

/-- An import line is read as such, unless its name holds a slash and could look like an import line
itself. -/
theorem importsIdentifiers_importLine_iff (noSlash : '/' ∉ entry.name.toList) :
    alphabet.ImportsIdentifiers (importLine entry) ↔ alphabet.IsIdentifier entry.name := by
  by_cases broken : '\n' ∈ entry.name.toList
  · exact iff_of_false (not_importsIdentifiers_of_broken noSlash broken)
      fun identifier => not_mem_of_isIdentifier identifier broken
  · have whole : Lines.pieces (importLine entry) = [importLine entry] := by
      refine Lines.pieces_of_single ?_
      simp [toList_importLine, broken]
    simp only [ImportsIdentifiers, whole, List.forall_mem_singleton]
    constructor
    · intro imports
      obtain ⟨name, identifier, same⟩ := imports ⟨_, (toList_importLine entry).symm⟩
      have sameName := congrArg IndexEntry.importedName same
      rw [importedName_importLine, importedName_importLine] at sameName
      exact sameName ▸ identifier
    · exact fun identifier _ => ⟨entry.name, identifier, rfl⟩

end Lines

/-- An index imports identifiers exactly when the names of its entries are such. -/
theorem importsIdentifiers_render_iff {entries : List IndexEntry}
    (noSlash : ∀ entry ∈ entries, '/' ∉ entry.name.toList)
    (single : ∀ entry ∈ entries, alphabet.IsIdentifier entry.name → entry.IsSingleLine) :
    alphabet.ImportsIdentifiers (IndexEntry.render entries) ↔
      ∀ entry ∈ entries, alphabet.IsIdentifier entry.name := by
  have ofEntries : (∀ line ∈ entries.map IndexEntry.importLine,
      alphabet.ImportsIdentifiers line) ↔ ∀ entry ∈ entries, alphabet.IsIdentifier entry.name := by
    rw [List.forall_mem_map]
    exact forall₂_congr fun entry listed => importsIdentifiers_importLine_iff (noSlash entry listed)
  rw [IndexEntry.render, importsIdentifiers_terminated_iff, ← ofEntries]
  simp only [List.forall_mem_append]
  refine ⟨fun lines => lines.1.1.1, fun imports => ?_⟩
  have singles : ∀ entry ∈ entries, entry.IsSingleLine := fun entry listed =>
    single entry listed (ofEntries.mp imports entry listed)
  refine ⟨⟨⟨imports, fun line listed => ?_⟩, fun line listed => ?_⟩, fun line listed => ?_⟩
  · have either : line = "" ∨ line = "export default \x7b" := by simpa using listed
    rcases either with rfl | rfl <;> exact importsIdentifiers_of_other (by decide) (by decide)
  · obtain ⟨property, rfl⟩ := IndexEntry.indented_of_mem_propertyLines line listed
    refine importsIdentifiers_of_other ?_ (by simp [String.toList_append])
    exact IndexEntry.single_of_mem_propertyLines singles _ listed
  · obtain rfl : line = "\x7d" := by simpa using listed
    exact importsIdentifiers_of_other (by decide) (by decide)

theorem importsIdentifiers_index {group : Group} (wellNamed : group.IsWellNamed)
    (indexFile : String) : alphabet.ImportsIdentifiers (group.index indexFile).content := by
  have accepted : ∀ name ∈ group.memberNames, Naming.check name = none := by
    rw [Group.memberNames, List.forall_mem_map]
    exact wellNamed
  have identifiers : ∀ entry ∈ IndexEntry.ofMembers group.memberNames,
      alphabet.IsIdentifier entry.name := by
    rw [IndexEntry.ofMembers, List.forall_mem_map]
    exact fun name listed => isIdentifier_of_check (accepted name listed)
  refine (importsIdentifiers_render_iff ?_ ?_).mpr identifiers
  · rw [IndexEntry.ofMembers, List.forall_mem_map]
    intro name listed slash
    have symbol := Naming.isSymbol_of_check (accepted name listed) _ slash
    exact absurd symbol (by decide)
  · rw [IndexEntry.ofMembers, List.forall_mem_map]
    exact fun name listed _ => Naming.isSingleLine_of_check (accepted name listed)

theorem importsIdentifiers_rootIndex_iff {tree : BuildTree}
    (noSlash : ∀ name ∈ tree.groupNames, '/' ∉ name.toList) (indexFile : String) :
    alphabet.ImportsIdentifiers (tree.rootIndex indexFile).content ↔
      ∀ name ∈ tree.groupNames, alphabet.IsIdentifier name := by
  have entries : (tree.rootIndex indexFile).content =
      IndexEntry.render (IndexEntry.ofGroups tree.groupNames) := rfl
  rw [entries, importsIdentifiers_render_iff]
  · rw [IndexEntry.ofGroups, List.forall_mem_map]
  · rw [IndexEntry.ofGroups, List.forall_mem_map]
    exact noSlash
  · rw [IndexEntry.ofGroups, List.forall_mem_map]
    exact fun name _ identifier =>
      ⟨not_mem_of_isIdentifier identifier, not_mem_of_isIdentifier identifier⟩

end Alphabet

open Workspace (Request)

/-- Over every storage, indexes that are written import identifiers exactly when all groups are
called by identifiers, whatever the pages are called.  A directory name holds no slash. -/
theorem written_indexes_import_identifiers_iff {State : Type} {handle : Handler Request State}
    (storage : handle.IsStorage) (alphabet : Alphabet) {state : State} {root : Path}
    {extension indexFile : String} {files : List IndexFile}
    (written : ((Task.writeIndexes root (Settings.ofTexts "" extension indexFile).layout).run
      handle state).result = .ok files) :
    let layout := (Settings.ofTexts "" extension indexFile).layout
    let outcome := (Task.writeIndexes root layout).run handle state
    ∃ tree, ((Task.readTree root layout).run handle state).result = .ok tree ∧
      files = tree.indexes indexFile ∧
      (∀ write ∈ outcome.writes, ∃ file ∈ files, file.write = write) ∧
      (∀ group ∈ tree.groups, alphabet.ImportsIdentifiers (group.index indexFile).content) ∧
      ((∀ name ∈ tree.groupNames, '/' ∉ name.toList) →
        ((∀ file ∈ files, alphabet.ImportsIdentifiers file.content) ↔
          ∀ name ∈ tree.groupNames, alphabet.IsIdentifier name)) := by
  intro layout outcome
  obtain ⟨tree, found, wellNamed, rfl, -⟩ :=
    (Task.writeIndexes_yields_iff storage).mp (Program.yields_of_result written)
  have groupIndexes : ∀ group ∈ tree.groups,
      alphabet.ImportsIdentifiers (group.index indexFile).content := fun group listed =>
    Alphabet.importsIdentifiers_index (wellNamed group listed) indexFile
  refine ⟨tree, found, rfl, fun write wrote => ?_, groupIndexes, fun noSlash => ?_⟩
  · obtain ⟨other, also, file, listed, same⟩ := Task.mem_writes_writeIndexes wrote
    cases found.symm.trans also
    exact ⟨file, listed, same⟩
  · rw [← Alphabet.importsIdentifiers_rootIndex_iff noSlash indexFile, BuildTree.indexes,
      List.forall_mem_cons, List.forall_mem_map]
    exact and_iff_left groupIndexes

namespace Memory

theorem written_indexes_import_identifiers_of_two_locales :
    let memory := ofFiles [("build/en/Intro.js", ""), ("build/pt_BR/Intro.js", "")]
    let outcome := (Task.writeIndexes (Path.ofString "build")
      (Settings.ofTexts "" ".js" "index.js").layout).run (handle Denial.nothing) memory
    (handle Denial.nothing).IsStorage ∧
      ∃ files, outcome.result = .ok files ∧
        (files.map IndexFile.content).head? = some (IndexEntry.renderGroups ["en", "pt_BR"]) ∧
        ∀ file ∈ files, Alphabet.basic.ImportsIdentifiers file.content := by
  intro memory outcome
  have storage := handle_isStorage Denial.nothing
  have roots : outcome.result.map (fun files => (files.map IndexFile.content).head?) =
      .ok (some (IndexEntry.renderGroups ["en", "pt_BR"])) := by
    decide +kernel
  have groups : ((Task.readTree (Path.ofString "build")
      (Settings.ofTexts "" ".js" "index.js").layout).run (handle Denial.nothing) memory).result.map
        BuildTree.groupNames = .ok ["en", "pt_BR"] := by
    decide +kernel
  obtain ⟨files, written, root⟩ := except_map_eq_ok.mp roots
  obtain ⟨tree, found, -, -, -, told⟩ :=
    written_indexes_import_identifiers_iff storage Alphabet.basic written
  obtain ⟨same, read, names⟩ := except_map_eq_ok.mp groups
  cases found.symm.trans read
  rw [names] at told
  exact ⟨storage, files, written, root, (told (by decide)).mpr (by decide +kernel)⟩

/-- A group can be called by a name that is no identifier, and the index of the root imports it. -/
theorem index_imports_name_with_hyphen :
    let memory := ofFiles [("build/pt-BR/Intro.js", "")]
    let outcome := (Task.writeIndexes (Path.ofString "build")
      (Settings.ofTexts "" ".js" "index.js").layout).run (handle Denial.nothing) memory
    outcome.result.map (fun files => files.map fun file => (Lines.pieces file.content).head?) =
        .ok [some "import pt-BR from './pt-BR'", some "import Intro from './Intro'"] ∧
      outcome.writes.map (·.1) =
        [Path.ofString "build/index.js", Path.ofString "build/pt-BR/index.js"] ∧
      ¬ ∀ files, outcome.result = .ok files →
        ∀ file ∈ files, Alphabet.basic.ImportsIdentifiers file.content := by
  intro memory outcome
  have heads : outcome.result.map
      (fun files => files.map fun file => (Lines.pieces file.content).head?) =
      .ok [some "import pt-BR from './pt-BR'", some "import Intro from './Intro'"] := by
    decide +kernel
  refine ⟨heads, by decide +kernel, fun imports => ?_⟩
  obtain ⟨files, written, lines⟩ := except_map_eq_ok.mp heads
  have first : some "import pt-BR from './pt-BR'" ∈
      files.map fun file => (Lines.pieces file.content).head? := by
    simp [lines]
  obtain ⟨file, listed, here⟩ := List.mem_map.mp first
  obtain ⟨name, identifier, same⟩ := imports files written file listed _
    (List.mem_of_mem_head? here) (by decide)
  have imported : name = "pt-BR" := by
    have sameName := congrArg IndexEntry.importedName same
    rw [IndexEntry.importedName_importLine] at sameName
    exact sameName.symm.trans (by decide +kernel)
  exact absurd (imported ▸ identifier) (by decide +kernel)

end Memory

end PageLinker
