import PageLinker.Catalog.Lookup
import PageLinker.Memory
import PageLinker.Proofs.Program.Interruption

/-!
# Shape of a memory

The shape of a memory is what stands where, and in which order, without the texts.  Listing
directories and telling them from files depends on the shape alone, and a text that is written over
another one leaves the shape as it was.
-/

namespace PageLinker

namespace Catalog

variable {Allowed : Route → Prop} {α : Type}

theorem eq_of_entries_eq {first second : Catalog Allowed α}
    (same : first.entries = second.entries) : first = second := by
  cases first
  cases second
  simp only at same
  subst same
  rfl

/-- The same directories and leaves stand at the same places, enumerated in the same order. -/
structure SameShape (first second : Catalog Allowed α) : Prop where
  kinds : ∀ route,
    (first.find? route).map Entry.isDirectory = (second.find? route).map Entry.isDirectory
  names : ∀ directory, first.names directory = second.names directory

namespace SameShape

variable {first second third : Catalog Allowed α}

theorem refl (catalog : Catalog Allowed α) : catalog.SameShape catalog :=
  ⟨fun _ => rfl, fun _ => rfl⟩

theorem trans (same : first.SameShape second) (also : second.SameShape third) :
    first.SameShape third :=
  ⟨fun route => (same.kinds route).trans (also.kinds route),
    fun directory => (same.names directory).trans (also.names directory)⟩

theorem absence_eq (same : first.SameShape second) (route : Route) :
    first.absence route = second.absence route := by
  have blocked (catalog : Catalog Allowed α) (above : Route) :
      (catalog.find? above).any (!·.isDirectory) =
        ((catalog.find? above).map Entry.isDirectory).any (!·) := by
    cases catalog.find? above <;> rfl
  simp only [absence, blocked, same.kinds]

end SameShape

theorem sameShape_refill (catalog : Catalog Allowed α) (route : Route) (content : α) :
    (catalog.refill route content).SameShape catalog := by
  refine ⟨fun other => ?_, fun directory => names_refill catalog route content directory⟩
  rw [find?_refill]
  split
  · cases catalog.find? other with
    | none => rfl
    | some entry => cases entry <;> rfl
  · rfl

theorem refill_eq_self {catalog : Catalog Allowed α} {route : Route} {content : α}
    (notTop : route ≠ []) (found : catalog.find? route = some (.leaf content)) :
    catalog.refill route content = catalog := by
  apply eq_of_entries_eq
  refine (List.map_congr_left ?_).trans (List.map_id catalog.entries)
  rintro ⟨place, entry⟩ member
  by_cases here : place = route
  · subst here
    have listed := (catalog.find?_eq_some_iff notTop).mpr member
    obtain rfl : entry = .leaf content := by simpa [listed] using found
    simp [Entry.refilled]
  · simp [here]

section Writing

variable [DecidablePred Allowed] {catalog written : Catalog Allowed α} {route : Route}
  {content : α}

/-- A granted write fills a leaf anew or makes one at a free place. -/
theorem write_cases (granted : catalog.write route content = .ok written) :
    (∃ old, catalog.find? route = some (.leaf old) ∧ written = catalog.refill route content) ∨
      ∃ free : catalog.IsFree route, written = catalog.append route (.leaf content) free := by
  rw [write] at granted
  split at granted
  · cases granted
  · next old found =>
      cases granted
      exact .inl ⟨old, found, rfl⟩
  · rw [add] at granted
    split at granted
    · next free =>
        cases granted
        exact .inr ⟨free, rfl⟩
    · cases granted

theorem find?_write (granted : catalog.write route content = .ok written) (other : Route) :
    written.find? other = if other = route then some (.leaf content) else catalog.find? other := by
  rcases write_cases granted with ⟨old, found, rfl⟩ | ⟨free, rfl⟩
  · rw [find?_refill]
    split
    · next same =>
        subst same
        rw [found]
        rfl
    · rfl
  · exact find?_append catalog (.leaf content) free other

theorem isDirectory_of_write (granted : catalog.write route content = .ok written) :
    catalog.isDirectory route = false := by
  rw [isDirectory]
  rcases write_cases granted with ⟨old, found, -⟩ | ⟨free, -⟩
  · rw [found]
    rfl
  · rw [Option.isNone_iff_eq_none.mp free.2.2.1]
    rfl

/-- Writing over a text leaves the shape as it was. -/
theorem sameShape_write {old : Entry α} (found : catalog.find? route = some old)
    (granted : catalog.write route content = .ok written) : written.SameShape catalog := by
  rcases write_cases granted with ⟨_, _, rfl⟩ | ⟨free, _⟩
  · exact sameShape_refill catalog route content
  · have missing := free.2.2.1
    simp [found] at missing

theorem isDirectory_write (granted : catalog.write route content = .ok written) (other : Route) :
    written.isDirectory other = catalog.isDirectory other := by
  by_cases here : other = route
  · subst here
    rw [isDirectory_of_write granted, isDirectory, find?_write granted, if_pos rfl]
    rfl
  · rw [isDirectory, isDirectory, find?_write granted, if_neg here]

theorem not_directory_of_write (granted : catalog.write route content = .ok written) :
    catalog.find? route ≠ some .directory := by
  intro found
  have file := isDirectory_of_write granted
  simp [isDirectory, found, Entry.isDirectory] at file

theorem find?_directory_write (granted : catalog.write route content = .ok written)
    {directory : Route} (found : catalog.find? directory = some .directory) :
    written.find? directory = some .directory := by
  have differ : directory ≠ route := by
    rintro rfl
    exact not_directory_of_write granted found
  rw [find?_write granted, if_neg differ]
  exact found

/-- A write adds one name to one directory at most. -/
theorem names_write (granted : catalog.write route content = .ok written) (directory : Route) :
    written.names directory = catalog.names directory ∨
      ∃ name, route = directory ++ [name] ∧
        written.names directory = catalog.names directory ++ [name] := by
  rcases write_cases granted with ⟨old, -, rfl⟩ | ⟨free, rfl⟩
  · exact .inl (names_refill catalog route content directory)
  · rw [names_append]
    cases within : nameWithin directory route with
    | none => exact .inl (by simp)
    | some name => exact .inr ⟨name, nameWithin_eq_some_iff.mp within, by simp⟩

theorem write_of_leaf {old : α} (found : catalog.find? route = some (.leaf old)) (content : α) :
    catalog.write route content = .ok (catalog.refill route content) := by
  rw [write, found]

theorem write_same (notTop : route ≠ []) (found : catalog.find? route = some (.leaf content)) :
    catalog.write route content = .ok catalog := by
  rw [write_of_leaf found, refill_eq_self notTop found]

/-- In a directory, a leaf can be written wherever no directory stands. -/
theorem exists_write (allowed : Allowed route) (parent : catalog.isDirectory route.dropLast)
    (unblocked : catalog.find? route ≠ some .directory) (content : α) :
    ∃ written, catalog.write route content = .ok written := by
  cases found : catalog.find? route with
  | some entry =>
      cases entry with
      | directory => exact absurd found unblocked
      | leaf old => exact ⟨_, write_of_leaf found content⟩
  | none =>
      have notTop : route ≠ [] := by
        rintro rfl
        cases found
      have free : catalog.IsFree route := ⟨notTop, allowed, by rw [found]; rfl, parent⟩
      refine ⟨catalog.append route (.leaf content) free, ?_⟩
      rw [write, found]
      exact dif_pos free

end Writing

end Catalog

namespace Memory

variable {denied : Denial} {memory other : Memory}

theorem read_eq_ok_iff {path : Path} {text : String} :
    memory.read path = .ok text ↔ memory.find? path.steps = some (.leaf text) := by
  rw [read]
  cases memory.find? path.steps with
  | none => simp
  | some entry => cases entry <;> simp

theorem list_eq_ok_iff {path : Path} {names : List String} :
    memory.list path = .ok names ↔
      memory.find? path.steps = some .directory ∧ memory.names path.steps = names := by
  rw [list]
  cases memory.find? path.steps with
  | none => simp
  | some entry => cases entry <;> simp

theorem list_eq_of_sameShape (same : memory.SameShape other) (path : Path) :
    memory.list path = other.list path := by
  have kind := same.kinds path.steps
  rw [list, list, same.names, same.absence_eq]
  generalize memory.find? path.steps = first at kind
  generalize other.find? path.steps = second at kind
  match first, second, kind with
  | none, none, _ => rfl
  | some .directory, some .directory, _ => rfl
  | some (.leaf _), some (.leaf _), _ => rfl

theorem holdsDirectory_eq_of_sameShape (same : memory.SameShape other) (path : Path) :
    memory.holdsDirectory path = other.holdsDirectory path := by
  have kind := same.kinds path.steps
  rw [holdsDirectory, holdsDirectory, same.absence_eq]
  generalize memory.find? path.steps = first at kind
  generalize other.find? path.steps = second at kind
  match first, second, kind with
  | none, none, _ => rfl
  | some _, some _, kind => exact congrArg Except.ok (Option.some.inj kind)

theorem guarded_eq_ok {α : Type} {access : Access} {path : Path} {answer : Except Refusal α}
    {value : α} :
    denied.guarded access path answer = .ok value ↔
      denied access path = false ∧ answer = .ok value := by
  rw [Denial.guarded]
  cases denied access path with
  | true => simp [Failure.about]
  | false => cases answer <;> simp [Failure.about]

theorem guarded_eq_error {α : Type} {access : Access} {path : Path} {answer : Except Refusal α}
    {failure : Failure} (refused : denied.guarded access path answer = .error failure) :
    ∃ refusal, failure = .refused refusal path := by
  rw [Denial.guarded] at refused
  cases answered : (if denied access path then .error .denied else answer) with
  | ok value => simp [answered, Failure.about] at refused
  | error refusal =>
      simp only [answered, Failure.about, Except.error.injEq] at refused
      exact ⟨refusal, refused.symm⟩

theorem guarded_map {α β : Type} {access : Access} {path : Path} (answer : Except Refusal α)
    (change : α → β) :
    denied.guarded access path (answer.map change) =
      (denied.guarded access path answer).map change := by
  simp only [Denial.guarded]
  cases denied access path <;> cases answer <;> rfl

theorem handle_curbs (denied : Denial) : (handle denied).Curbs (handle Denial.nothing) := by
  intro request memory granted answered
  cases request with
  | note record => exact answered
  | listDir path | isDir path | readText path | writeText path content =>
      exact guarded_eq_ok.mpr ⟨rfl, (guarded_eq_ok.mp answered).2⟩

/-- A memory refuses requests for reasons of its own, never because of what pages are called. -/
theorem handle_eq_error {request : Workspace.Request} {failure : Failure}
    (refused : handle denied request memory = .error failure) :
    ∃ refusal path, failure = .refused refusal path := by
  cases request with
  | note record => cases refused
  | listDir path | isDir path | readText path | writeText path content =>
      obtain ⟨refusal, rfl⟩ := guarded_eq_error refused
      exact ⟨refusal, path, rfl⟩

/-- A granted request writes what it says, or leaves the memory as it is. -/
theorem handle_eq_ok {request : Workspace.Request}
    {granted : Interface.Answer request × Memory}
    (answered : handle denied request memory = .ok granted) :
    match request.written? with
    | some (path, content) => memory.write path.steps content = .ok granted.2
    | none => granted.2 = memory := by
  cases request with
  | note record =>
      cases answered
      rfl
  | listDir path | isDir path | readText path =>
      obtain ⟨value, _, rfl⟩ := except_map_eq_ok.mp (guarded_eq_ok.mp answered).2
      rfl
  | writeText path content =>
      obtain ⟨written, found, rfl⟩ := except_map_eq_ok.mp (guarded_eq_ok.mp answered).2
      exact found

end Memory

end PageLinker
