import Mathlib.Data.List.Induction
import Mathlib.Data.List.Nodup
import PageLinker.Proofs.Disk.Places

/-!
# Storing files

What is stored where a file stands is found under all its names, and nothing else changes.  Where
none stands, a file is made that has no other name.  Under an order of enumeration that is stable, a
new file leaves what a directory lists besides it as it is.
-/

namespace PageLinker

namespace Sorting

theorem sorted_le_pairwise (values : List String) :
    (sorted (· ≤ ·) values).Pairwise (· ≤ ·) := by
  have transitive (first second third : String) (before : decide (first ≤ second))
      (later : decide (second ≤ third)) : decide (first ≤ third) := by
    simp only [decide_eq_true_eq] at before later ⊢
    exact String.le_trans before later
  have total (first second : String) : decide (first ≤ second) ∨ decide (second ≤ first) := by
    simp only [decide_eq_true_eq]
    exact String.le_total first second
  exact (sorted_pairwise transitive total values).imp of_decide_eq_true

/-- The same names come out in the same order. -/
theorem eq_sorted_of_perm {ordered values : List String} (rising : ordered.Pairwise (· ≤ ·))
    (same : ordered.Perm values) : ordered = sorted (· ≤ ·) values :=
  (same.trans (sorted_perm _ values).symm).eq_of_pairwise
    (fun _ _ _ _ before after => String.le_antisymm before after) rising
    (sorted_le_pairwise values)

end Sorting

namespace Disk

variable {disk left : Disk} {path : Path} {place route : Route} {content : ByteArray}

/-- Names in code point order stay in order when one is added. -/
theorem Enumeration.sorted_isStable : Enumeration.sorted.IsStable := by
  intro contents route entry free directory
  refine Sorting.eq_sorted_of_perm ((Sorting.sorted_le_pairwise _).filter _)
    (((Sorting.sorted_perm _ _).filter _).trans ?_)
  rw [Catalog.names_append, List.filter_append]
  have kept : (contents.names directory).filter (fun name => directory ++ [name] ≠ route) =
      contents.names directory := by
    refine List.filter_eq_self.mpr fun name listed => ?_
    have present := contents.mem_names_iff.mp listed
    refine decide_eq_true fun same => ?_
    rw [same, Option.isNone_iff_eq_none.mp free.2.2.1] at present
    cases present
  have dropped : (Catalog.nameWithin directory route).toList.filter
      (fun name => directory ++ [name] ≠ route) = [] := by
    refine List.filter_eq_nil_iff.mpr fun name added => ?_
    rw [Option.mem_toList, Catalog.nameWithin_eq_some_iff] at added
    simp [added]
  rw [kept, dropped, List.append_nil]

section Refilling

variable {number : Nat}

@[simp]
theorem bytes_refill (disk : Disk) (number : Nat) (content : ByteArray) (other : Nat) :
    (disk.refill number content).bytes other =
      if other = number then content else disk.bytes other :=
  rfl

@[simp]
theorem openFile_refill (disk : Disk) (number : Nat) (content : ByteArray) :
    (disk.refill number content).openFile = disk.openFile :=
  rfl

/-- A file that has its bytes already stays as it is. -/
theorem refill_same (holds : disk.bytes number = content) : disk.refill number content = disk := by
  refine congrArg (fun bytes => { disk with bytes }) (funext fun other => ?_)
  split
  · next same => rw [same, holds]
  · rfl

theorem store_of_file (isFile : disk.contents.find? route = some (.leaf (.file number)))
    (content : ByteArray) : disk.store route content = .ok (disk.refill number content) := by
  rw [store, isFile]

/-- Writing to a file that a path leads to gives it other bytes. -/
theorem writeBytes_of_openFile (opened : disk.openFile path = .ok number) (content : ByteArray) :
    disk.writeBytes path content = .ok (disk.refill number content) := by
  obtain ⟨route, located, isFile⟩ := openFile_eq_ok_iff.mp opened
  have making : disk.locate .making path = .ok route := walk_making_of_file isFile located
  rw [writeBytes, making, except_ok_bind, store_of_file isFile]

theorem readBytes_refill (opened : disk.openFile path = .ok number) (content : ByteArray) :
    (disk.refill number content).readBytes path = .ok content := by
  rw [readBytes, openFile_refill, opened]
  exact congrArg Except.ok (if_pos rfl)

/-- A file under another number keeps its bytes. -/
theorem readBytes_refill_of_ne (apart : disk.openFile path ≠ .ok number) (content : ByteArray) :
    (disk.refill number content).readBytes path = disk.readBytes path := by
  rw [readBytes, readBytes, openFile_refill]
  cases opened : disk.openFile path with
  | error refusal => rfl
  | ok own =>
      have differ : own ≠ number := fun same => apart (opened.trans (congrArg Except.ok same))
      exact congrArg Except.ok (if_neg differ)

/-- Give files their bytes, one after the other. -/
def refillAll (disk : Disk) (fills : List (Nat × ByteArray)) : Disk :=
  fills.foldl (fun filled fill => filled.refill fill.1 fill.2) disk

/-- A file has the bytes that it was given last. -/
theorem refillAll_eq (disk : Disk) (fills : List (Nat × ByteArray)) :
    disk.refillAll fills =
      { disk with bytes := fun number => (fills.reverse.lookup number).getD (disk.bytes number) } := by
  induction fills using List.reverseRecOn with
  | nil => rfl
  | append_singleton fills last ih =>
      obtain ⟨target, content⟩ := last
      have lastStep : disk.refillAll (fills ++ [(target, content)]) =
          (disk.refillAll fills).refill target content := by
        rw [refillAll, List.foldl_append]
        rfl
      rw [lastStep, ih, refill, List.reverse_append]
      refine congrArg (fun bytes => { disk with bytes }) (funext fun number => ?_)
      rw [List.reverse_singleton, List.singleton_append, List.lookup_cons]
      by_cases same : number = target
      · simp [same]
      · have differ : (number == target) = false := beq_eq_false_iff_ne.mpr same
        simp [same, differ]

/-- Giving files the same bytes once more changes nothing. -/
theorem refillAll_twice (disk : Disk) (fills : List (Nat × ByteArray)) :
    (disk.refillAll fills).refillAll fills = disk.refillAll fills := by
  simp only [refillAll_eq]
  refine congrArg (fun bytes => { disk with bytes }) (funext fun number => ?_)
  cases fills.reverse.lookup number <;> rfl

end Refilling

theorem mem_leaves_of_find? {node : Node}
    (stands : disk.contents.find? route = some (.leaf node)) :
    (route, node) ∈ disk.contents.leaves := by
  have notTop : route ≠ [] := by
    rintro rfl
    cases stands
  exact List.mem_filterMap.mpr ⟨_, (disk.contents.find?_eq_some_iff notTop).mp stands, rfl⟩

/-- Where every name has a node of its own, no two are names of one file. -/
theorem eq_of_sameFile (single : (disk.contents.leaves.map Prod.snd).Nodup)
    (same : disk.SameFile route place) : route = place := by
  obtain ⟨number, first, second⟩ := sameFile_iff.mp same
  have entry := List.inj_on_of_nodup_map single (mem_leaves_of_find? first)
    (mem_leaves_of_find? second) rfl
  exact congrArg Prod.fst entry

/-- No file has the number that a new one is given. -/
theorem find?_ne_freshNumber (disk : Disk) (route : Route) :
    disk.contents.find? route ≠ some (.leaf (.file disk.freshNumber)) := by
  intro found
  have bounded (numbers : List Nat) : ∀ number ∈ numbers, number ≤ numbers.foldr max 0 := by
    induction numbers with
    | nil => simp
    | cons first rest ih =>
        intro number member
        rcases List.mem_cons.mp member with rfl | later
        · exact Nat.le_max_left ..
        · exact Nat.le_trans (ih number later) (Nat.le_max_right ..)
  have counted : disk.freshNumber ∈ disk.contents.leaves.filterMap (·.2.number?) :=
    List.mem_filterMap.mpr ⟨_, mem_leaves_of_find? found, rfl⟩
  exact Nat.not_succ_le_self _ (bounded _ _ counted)

/-- What is stored goes to a file that is there, or to a new one. -/
theorem store_cases (stored : disk.store route content = .ok left) :
    (∃ number, disk.contents.find? route = some (.leaf (.file number)) ∧
        left = disk.refill number content) ∨
      ∃ free : disk.contents.IsFree route, left =
        { disk.refill disk.freshNumber content with
          contents := disk.contents.append route (.leaf (.file disk.freshNumber)) free } := by
  rw [store] at stored
  match stands : disk.contents.find? route with
  | some .directory | some (.leaf (.link _)) =>
      rw [stands] at stored
      cases stored
  | some (.leaf (.file number)) =>
      rw [stands] at stored
      exact .inl ⟨number, rfl, (Except.ok.inj stored).symm⟩
  | none =>
      rw [stands] at stored
      obtain ⟨contents, added, made⟩ := except_bind_eq_ok.mp stored
      rw [Catalog.add] at added
      split at added
      · next free =>
          obtain rfl := Except.ok.inj added
          exact .inr ⟨free, (Except.ok.inj made).symm⟩
      · cases added

/-- A file can be stored wherever its place is proper, in a directory, and no directory or link is
in the way. -/
theorem exists_store (isPlace : IsPlace route)
    (parent : disk.contents.isDirectory route.dropLast = true)
    (notDirectory : disk.contents.find? route ≠ some .directory)
    (noLink : ∀ target, disk.contents.find? route ≠ some (.leaf (.link target)))
    (content : ByteArray) : ∃ left, disk.store route content = .ok left := by
  rw [store]
  match stands : disk.contents.find? route with
  | some .directory => exact absurd stands notDirectory
  | some (.leaf (.link target)) => exact absurd stands (noLink target)
  | some (.leaf (.file number)) => exact ⟨_, rfl⟩
  | none =>
      have notTop : route ≠ [] := by
        rintro rfl
        cases stands
      have free : disk.contents.IsFree route := ⟨notTop, isPlace, by simp [stands], parent⟩
      refine ⟨{ disk.refill disk.freshNumber content with
        contents := disk.contents.append route (.leaf (.file disk.freshNumber)) free }, ?_⟩
      rw [Catalog.add, dif_pos free]
      rfl

section Storing

variable (stored : disk.store route content = .ok left)
include stored

theorem workingDirectory_store : left.workingDirectory = disk.workingDirectory := by
  rcases store_cases stored with ⟨_, -, rfl⟩ | ⟨_, rfl⟩ <;> rfl

theorem enumeration_store : left.enumeration = disk.enumeration := by
  rcases store_cases stored with ⟨_, -, rfl⟩ | ⟨_, rfl⟩ <;> rfl

/-- Writing over a file makes no entry. -/
theorem contents_store (present : (disk.contents.find? route).isSome) :
    left.contents = disk.contents := by
  rcases store_cases stored with ⟨_, -, rfl⟩ | ⟨free, -⟩
  · rfl
  · rw [Option.isNone_iff_eq_none.mp free.2.2.1] at present
    cases present

theorem contents_find?_store_of_ne {other : Route} (apart : other ≠ route) :
    left.contents.find? other = disk.contents.find? other := by
  rcases store_cases stored with ⟨_, -, rfl⟩ | ⟨free, rfl⟩
  · rfl
  · rw [Catalog.find?_append, if_neg apart]

/-- Whatever stood on the disk stands there still. -/
theorem contents_find?_store {other : Route} {entry : Entry Node}
    (found : disk.contents.find? other = some entry) :
    left.contents.find? other = some entry := by
  rcases store_cases stored with ⟨_, -, rfl⟩ | ⟨free, rfl⟩
  · exact found
  · have apart : other ≠ route := by
      rintro rfl
      rw [Option.isNone_iff_eq_none.mp free.2.2.1] at found
      cases found
    rw [Catalog.find?_append, if_neg apart]
    exact found

/-- The file stands at its place, and holds what was stored. -/
theorem exists_number_store :
    ∃ number, left.contents.find? route = some (.leaf (.file number)) ∧
      left = { disk.refill number content with contents := left.contents } := by
  rcases store_cases stored with ⟨number, found, rfl⟩ | ⟨free, rfl⟩
  · exact ⟨number, found, rfl⟩
  · exact ⟨disk.freshNumber, by rw [Catalog.find?_append, if_pos rfl], rfl⟩

/-- A file has the names that it had, and a new one has one. -/
theorem sameFile_store {first second : Route} :
    left.SameFile first second ↔
      disk.SameFile first second ∨ first = route ∧ second = route := by
  simp only [sameFile_iff]
  rcases store_cases stored with ⟨number, found, rfl⟩ | ⟨free, rfl⟩
  · refine (or_iff_left_of_imp ?_).symm
    rintro ⟨rfl, rfl⟩
    exact ⟨number, found, found⟩
  · have absent := Option.isNone_iff_eq_none.mp free.2.2.1
    have unused := disk.find?_ne_freshNumber
    simp only [Catalog.find?_append]
    by_cases isFirst : first = route <;> by_cases isSecond : second = route
    · simp [isFirst, isSecond]
    · simp [isFirst, isSecond, absent, unused]
    · simp [isFirst, isSecond, absent, unused, eq_comm]
    · simp [isFirst, isSecond]

/-- What was stored is found under every name of the file. -/
theorem find?_store {other : Route} (same : left.SameFile route other) :
    left.find? other = some (.leaf (.file content)) := by
  obtain ⟨number, stands, made⟩ := exists_number_store stored
  obtain ⟨found, standsToo, otherStands⟩ := sameFile_iff.mp same
  obtain rfl : number = found := by simpa [stands] using standsToo
  refine find?_eq_file_iff.mpr ⟨number, otherStands, ?_⟩
  rw [made]
  exact if_pos rfl

theorem sameFile_store_self : left.SameFile route route :=
  (sameFile_store stored).mpr (.inr ⟨rfl, rfl⟩)

/-- Another file keeps its content, and everything else stays as well. -/
theorem find?_store_of_apart {other : Route} (apart : ¬ left.SameFile route other) :
    left.find? other = disk.find? other := by
  obtain ⟨number, stands, made⟩ := exists_number_store stored
  have elsewhere : other ≠ route := by
    rintro rfl
    exact apart (sameFile_store_self stored)
  have entry := contents_find?_store_of_ne stored elsewhere
  rw [find?, find?, entry]
  have kept {node : Node} (found : disk.contents.find? other = some (.leaf node)) :
      left.leafOf node = disk.leafOf node := by
    cases node with
    | link target => rfl
    | file old =>
        have differ : old ≠ number := by
          rintro rfl
          exact apart (sameFile_iff.mpr ⟨old, stands, entry.trans found⟩)
        rw [leafOf, leafOf, made]
        exact congrArg Leaf.file (if_neg differ)
  cases found : disk.contents.find? other with
  | none => rfl
  | some standing =>
      cases standing with
      | directory => rfl
      | leaf node => rw [Option.map_some, Option.map_some, Entry.map, Entry.map, kept found]

theorem isDirectory_store (other : Route) :
    left.contents.isDirectory other = disk.contents.isDirectory other := by
  rcases store_cases stored with ⟨_, -, rfl⟩ | ⟨free, rfl⟩
  · rfl
  · have absent := Option.isNone_iff_eq_none.mp free.2.2.1
    rw [Catalog.isDirectory, Catalog.isDirectory, Catalog.find?_append]
    split
    · next same => rw [same, absent]; rfl
    · rfl

theorem isLinkFreeFrom_store (linkFree : disk.IsLinkFreeFrom place) :
    left.IsLinkFreeFrom place := by
  intro below target found
  by_cases here : place ++ below = route
  · obtain ⟨number, stands, -⟩ := exists_number_store stored
    rw [here, stands] at found
    cases found
  · rw [contents_find?_store_of_ne stored here] at found
    exact linkFree below target found

theorem leadsTo_store (leads : disk.LeadsTo path place) : left.LeadsTo path place := by
  have start : left.start path = disk.start path := by
    simp only [start, workingDirectory_store stored]
  refine ⟨?_, contents_find?_store stored leads.directory⟩
  rw [start]
  exact leads.leads.mono fun _ _ found => contents_find?_store stored found

theorem listing_store_of_present (present : (disk.contents.find? route).isSome)
    (directory : Route) : left.listing directory = disk.listing directory := by
  rw [listing, listing, enumeration_store stored, contents_store stored present]

/-- A directory lists the same as before, the name of a new file left out. -/
theorem filter_listing_store (stable : disk.enumeration.IsStable) {directory : Route}
    {test : String → Bool} (leavesOut : ∀ name, test name = true → directory ++ [name] ≠ route) :
    (left.listing directory).filter test = (disk.listing directory).filter test := by
  rcases store_cases stored with ⟨_, -, rfl⟩ | ⟨free, rfl⟩
  · rfl
  · rw [listing, listing, ← stable disk.contents route _ free directory, List.filter_filter]
    refine List.filter_congr fun name _ => ?_
    cases passes : test name with
    | false => rfl
    | true => simp [leavesOut name passes]

end Storing

end Disk

end PageLinker
