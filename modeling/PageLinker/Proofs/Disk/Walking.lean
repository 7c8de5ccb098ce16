import PageLinker.Disk
import PageLinker.Path.Joining
import PageLinker.Proofs.Memory.Shape

/-!
# Ways on a disk

A path that leads to a directory leads there through directories and links only.  So it leads there
for every purpose, it leads on to what stands in the directory, and no new entry turns it elsewhere.
-/

namespace PageLinker

namespace Disk

/-- The step leads to an entry of the directory that one is in. -/
def IsEntryStep (step : String) : Prop :=
  ¬ (step = "." ∨ step = "") ∧ step ≠ ".."

/-- The steps lead from one directory to another, through at most so many links. -/
inductive Leads (contents : Contents) : Nat → Route → List String → Route → Prop where
  | here (links : Nat) (directory : Route) : Leads contents links directory [] directory
  | stay {links : Nat} {directory place : Route} {step : String} {rest : List String}
      (idle : step = "." ∨ step = "") (later : Leads contents links directory rest place) :
      Leads contents links directory (step :: rest) place
  | up {links : Nat} {directory place : Route} {rest : List String}
      (later : Leads contents links directory.dropLast rest place) :
      Leads contents links directory (".." :: rest) place
  | down {links : Nat} {directory place : Route} {step : String} {rest : List String}
      (enters : IsEntryStep step)
      (found : contents.find? (directory ++ [step]) = some .directory)
      (later : Leads contents links (directory ++ [step]) rest place) :
      Leads contents links directory (step :: rest) place
  | follow {links : Nat} {directory place : Route} {step target : String} {rest : List String}
      (enters : IsEntryStep step)
      (found : contents.find? (directory ++ [step]) = some (.leaf (.link target)))
      (later : Leads contents links (linkStart directory target) (linkSteps target ++ rest) place) :
      Leads contents (links + 1) directory (step :: rest) place

section Walks

variable {contents other : Contents} {purpose : Purpose} {links : Nat}
  {directory place : Route} {step : String} {rest : List String}

/-- How a walk goes on at a link, given by its directory and its target. -/
def walkOn (contents : Contents) (purpose : Purpose) :
    Nat → Route → String → List String → Except Refusal Route
  | 0, _, _, _ => .error .tooManyLinks
  | links + 1, directory, target, rest =>
      walk contents purpose links (linkStart directory target) (linkSteps target ++ rest)

theorem walk_eq_walkSteps (links : Nat) :
    walk contents purpose links = walkSteps contents purpose (walkOn contents purpose links) := by
  cases links <;> rfl

@[simp]
theorem walk_nil : walk contents purpose links directory [] = .ok directory := by
  rw [walk_eq_walkSteps, walkSteps]

theorem walk_idle (idle : step = "." ∨ step = "") :
    walk contents purpose links directory (step :: rest) =
      walk contents purpose links directory rest := by
  rw [walk_eq_walkSteps, walkSteps, if_pos idle]

theorem walk_up :
    walk contents purpose links directory (".." :: rest) =
      walk contents purpose links directory.dropLast rest := by
  rw [walk_eq_walkSteps, walkSteps, if_neg (by simp), if_pos rfl]

/-- A step into an entry goes by what stands there. -/
theorem walk_enter (enters : IsEntryStep step)
    (mayEnd : ¬ (purpose = .making ∧ rest = [""])) :
    walk contents purpose links directory (step :: rest) =
      match contents.find? (directory ++ [step]) with
      | some .directory => walk contents purpose links (directory ++ [step]) rest
      | some (.leaf (.file _)) =>
          if rest.isEmpty then .ok (directory ++ [step]) else .error .notDirectory
      | some (.leaf (.link target)) =>
          if rest.isEmpty && purpose == .entry then .ok (directory ++ [step])
          else walkOn contents purpose links directory target rest
      | none => if rest.isEmpty then .ok (directory ++ [step]) else .error .notFound := by
  rw [walk_eq_walkSteps]
  exact (if_neg enters.1).trans ((if_neg enters.2).trans (if_neg mayEnd))

/-- The last step of a walk ends at what stands there, if that is no link. -/
theorem walk_last (enters : IsEntryStep step)
    (noLink : ∀ target, contents.find? (directory ++ [step]) ≠ some (.leaf (.link target))) :
    walk contents purpose links directory [step] = .ok (directory ++ [step]) := by
  rw [walk_enter enters (by simp)]
  cases found : contents.find? (directory ++ [step]) with
  | none => rfl
  | some entry =>
      cases entry with
      | directory => simp
      | leaf node =>
          cases node with
          | file number => rfl
          | link target => exact absurd found (noLink target)

/-- A walk that enters an entry goes on in a directory, or at a link, or ends there. -/
theorem walk_enter_cases (enters : IsEntryStep step)
    (walked : walk contents .content links directory (step :: rest) = .ok place) :
    (contents.find? (directory ++ [step]) = some .directory ∧
        walk contents .content links (directory ++ [step]) rest = .ok place) ∨
      (∃ target fewer, contents.find? (directory ++ [step]) = some (.leaf (.link target)) ∧
        links = fewer + 1 ∧ walk contents .content fewer (linkStart directory target)
          (linkSteps target ++ rest) = .ok place) ∨
      (rest = [] ∧ directory ++ [step] = place ∧
        (contents.find? place = none ∨
          ∃ number, contents.find? place = some (.leaf (.file number)))) := by
  have ends {reached : Route} {refusal : Refusal}
      (ended : (if rest.isEmpty then Except.ok reached else .error refusal) = .ok place) :
      rest = [] ∧ reached = place := by
    split at ended
    · next isEmpty => exact ⟨List.isEmpty_iff.mp isEmpty, Except.ok.inj ended⟩
    · cases ended
  rw [walk_enter enters (by simp)] at walked
  match stands : contents.find? (directory ++ [step]) with
  | none =>
      rw [stands] at walked
      obtain ⟨last, rfl⟩ := ends walked
      exact .inr (.inr ⟨last, rfl, .inl stands⟩)
  | some .directory =>
      rw [stands] at walked
      exact .inl ⟨rfl, walked⟩
  | some (.leaf (.file number)) =>
      rw [stands] at walked
      obtain ⟨last, rfl⟩ := ends walked
      exact .inr (.inr ⟨last, rfl, .inr ⟨number, stands⟩⟩)
  | some (.leaf (.link target)) =>
      rw [stands] at walked
      have goesOn : walkOn contents .content links directory target rest = .ok place := by
        simpa using walked
      cases links with
      | zero => cases goesOn
      | succ fewer => exact .inr (.inl ⟨target, fewer, rfl, rfl, goesOn⟩)

namespace Leads

variable {steps : List String}

/-- A walk that ends in a directory has led there. -/
theorem of_walk (found : contents.find? place = some .directory)
    (walked : walk contents .content links directory steps = .ok place) :
    Leads contents links directory steps place := by
  induction links using Nat.strongRecOn generalizing directory steps with
  | ind links ofFewer =>
      induction steps generalizing directory with
      | nil =>
          rw [walk_nil] at walked
          obtain rfl := Except.ok.inj walked
          exact .here links _
      | cons step rest ih =>
          by_cases idle : step = "." ∨ step = ""
          · rw [walk_idle idle] at walked
            exact .stay idle (ih walked)
          by_cases isUp : step = ".."
          · subst isUp
            rw [walk_up] at walked
            exact .up (ih walked)
          have enters : IsEntryStep step := ⟨idle, isUp⟩
          rcases walk_enter_cases enters walked with
            ⟨stands, further⟩ | ⟨target, fewer, isLink, rfl, goesOn⟩ | ⟨-, -, absent | ⟨_, isFile⟩⟩
          · exact .down enters stands (ih further)
          · exact .follow enters isLink (ofFewer fewer (Nat.lt_succ_self fewer) goesOn)
          · cases absent.symm.trans found
          · cases isFile.symm.trans found

variable (leads : Leads contents links directory steps place)
include leads

/-- The walk goes on from the directory that the steps lead to. -/
theorem walk_concat {last : String} (named : last ≠ "") {reached : Route}
    (ends : ∀ links, walk contents purpose links place [last] = .ok reached) :
    walk contents purpose links directory (steps ++ [last]) = .ok reached := by
  have more (rest : List String) : rest ++ [last] ≠ [""] := by
    intro same
    have final := congrArg List.getLast? same
    simp [named] at final
  induction leads with
  | here links directory => exact ends links
  | stay idle later ih => exact (walk_idle idle).trans (ih ends)
  | up later ih => exact walk_up.trans (ih ends)
  | down enters found later ih =>
      rw [List.cons_append, walk_enter enters (by simp [more]), found]
      exact ih ends
  | follow enters found later ih =>
      rw [List.cons_append, walk_enter enters (by simp [more]), found]
      simpa [walkOn] using ih ends

theorem walk_content : walk contents .content links directory steps = .ok place := by
  induction leads with
  | here links directory => exact walk_nil
  | stay idle later ih => exact (walk_idle idle).trans ih
  | up later ih => exact walk_up.trans ih
  | down enters found later ih =>
      rw [walk_enter enters (by simp), found]
      exact ih
  | follow enters found later ih =>
      rw [walk_enter enters (by simp), found]
      simpa [walkOn] using ih

theorem concat {name : String} (entry : IsEntryStep name)
    (within : contents.find? (place ++ [name]) = some .directory) :
    Leads contents links directory (steps ++ [name]) (place ++ [name]) := by
  induction leads with
  | here links _ => exact .down entry within (.here links _)
  | stay idle later ih => exact .stay idle (ih within)
  | up later ih => exact .up (ih within)
  | down enters found later ih => exact .down enters found (ih within)
  | follow enters found later ih =>
      have further := ih within
      rw [List.append_assoc] at further
      exact .follow enters found further

/-- The way stays while everything on the disk does. -/
theorem mono (kept : ∀ route entry, contents.find? route = some entry →
    other.find? route = some entry) :
    Leads other links directory steps place := by
  induction leads with
  | here links directory => exact .here links directory
  | stay idle later ih => exact .stay idle ih
  | up later ih => exact .up ih
  | down enters found later ih => exact .down enters (kept _ _ found) ih
  | follow enters found later ih => exact .follow enters (kept _ _ found) ih

end Leads

end Walks

end Disk

end PageLinker
