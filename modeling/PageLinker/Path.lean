/-!
# Paths

A path is an anchor and a list of components.  Empty components and `.` are dropped when a path
is read, while `..` is kept, since what stands above a link is known only to the disk.  Two
leading slashes are an anchor of their own; three or more count as one.
-/

namespace PageLinker

/-- Where a path starts. -/
inductive Anchor where
  | here
  | root
  | doubleRoot
  deriving DecidableEq, Repr

def Anchor.text : Anchor → String
  | .here => ""
  | .root => "/"
  | .doubleRoot => "//"

/-- The anchor as a first step of its own, if it has a written form. -/
def Anchor.steps : Anchor → List String
  | .here => []
  | .root => ["/"]
  | .doubleRoot => ["//"]

/-- A name that can stand between two slashes and is not dropped there. -/
def IsComponent (name : String) : Prop :=
  name ≠ "" ∧ name ≠ "." ∧ '/' ∉ name.toList

instance (name : String) : Decidable (IsComponent name) :=
  inferInstanceAs (Decidable (_ ∧ _ ∧ _))

/-- A normalised path. -/
structure Path where
  anchor : Anchor
  components : List String
  proper : ∀ name ∈ components, IsComponent name
  deriving DecidableEq

namespace Path

def anchorOf : List Char → Anchor
  | '/' :: '/' :: '/' :: _ => .root
  | '/' :: '/' :: _ => .doubleRoot
  | '/' :: _ => .root
  | _ => .here

/-- The components of a text: the pieces between its slashes, less those that are dropped. -/
def componentsOf (text : List Char) : List String :=
  ((text.splitOn '/').map String.ofList).filter fun name => decide (IsComponent name)

def ofString (text : String) : Path where
  anchor := anchorOf text.toList
  components := componentsOf text.toList
  proper := by simp [componentsOf]

/-- The empty path, which stands for the place where one is. -/
def here : Path := ⟨.here, [], by simp⟩

def toString (path : Path) : String :=
  if path.anchor = .here ∧ path.components = [] then "."
  else path.anchor.text ++ "/".intercalate path.components

instance : ToString Path := ⟨Path.toString⟩

/-- A path seen from another one.  With an anchor it stands for itself. -/
def append (path relative : Path) : Path :=
  match relative.anchor with
  | .here =>
      { anchor := path.anchor
        components := path.components ++ relative.components
        proper := by
          intro component member
          rcases List.mem_append.mp member with before | after
          · exact path.proper component before
          · exact relative.proper component after }
  | _ => relative

/-- The path that a text names, seen from a path. -/
def join (path : Path) (text : String) : Path :=
  path.append (ofString text)

/-- The last component, or nothing when there is none. -/
def name (path : Path) : String :=
  path.components.getLast?.getD ""

/-- The steps that lead to the path, with the anchor as a first step of its own. -/
def steps (path : Path) : List String :=
  path.anchor.steps ++ path.components

/-- The path of those names that can be components. -/
def ofComponents (anchor : Anchor) (names : List String) : Path where
  anchor := anchor
  components := names.filter fun name => decide (IsComponent name)
  proper := by simp

/-- The path that steps lead to. -/
def ofSteps : List String → Path
  | [] => here
  | first :: rest =>
      if first = "/" then ofComponents .root rest
      else if first = "//" then ofComponents .doubleRoot rest
      else ofComponents .here (first :: rest)

theorem ofComponents_components (path : Path) :
    ofComponents path.anchor path.components = path := by
  have kept : path.components.filter (fun name => decide (IsComponent name)) =
      path.components := by
    rw [List.filter_eq_self]
    intro name member
    exact decide_eq_true (path.proper name member)
  cases path
  simp only [ofComponents] at kept ⊢
  congr

/-- The steps of a path lead to it. -/
@[simp]
theorem ofSteps_steps (path : Path) : ofSteps path.steps = path := by
  have whole := ofComponents_components path
  match path, whole with
  | ⟨.root, names, proper⟩, whole => exact whole
  | ⟨.doubleRoot, names, proper⟩, whole => exact whole
  | ⟨.here, [], proper⟩, _ => rfl
  | ⟨.here, first :: rest, proper⟩, whole =>
      have component := proper first (by simp)
      have notRoot : first ≠ "/" := by
        rintro rfl
        exact component.2.2 (by decide)
      have notDoubleRoot : first ≠ "//" := by
        rintro rfl
        exact component.2.2 (by decide)
      simpa [steps, Anchor.steps, ofSteps, notRoot, notDoubleRoot] using whole

/-- The names are the steps of some path. -/
def AreSteps (names : List String) : Prop :=
  (ofSteps names).steps = names

instance : DecidablePred AreSteps := fun names =>
  inferInstanceAs (Decidable ((ofSteps names).steps = names))

/-- The steps of a path are steps. -/
theorem areSteps_steps (path : Path) : AreSteps path.steps := by
  rw [AreSteps, ofSteps_steps]

end Path

end PageLinker
