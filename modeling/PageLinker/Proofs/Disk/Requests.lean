import PageLinker.Proofs.Disk.Places
import PageLinker.Proofs.Page.Completing
import PageLinker.Proofs.Program.Yielding
import PageLinker.Proofs.Text.Lines

/-!
# What a disk answers

Single requests to a disk, and the texts that it gives back.  A text that was written is read with
its line ends unified, which does not hide an import block at its beginning.
-/

namespace PageLinker

namespace ImportBlock

theorem opensWith_unified {line text : String} (noReturn : '\r' ∉ line.toList)
    (opens : opensWith line text = true) : opensWith line (Lines.unified text) = true := by
  rw [opensWith, List.isPrefixOf_iff_prefix] at opens ⊢
  obtain ⟨rest, written⟩ := opens
  have noReturnEither : '\r' ∉ (line ++ "\n").toList := by
    rw [String.toList_append]
    simp [noReturn]
  rw [Lines.unified, String.toList_ofList, ← written, Lines.unifyEnds_append noReturnEither]
  exact List.prefix_append _ _

theorem isPresent_unified {text : String} (present : isPresent text = true) :
    isPresent (Lines.unified text) = true := by
  rw [isPresent, Bool.or_eq_true] at present ⊢
  exact present.imp (opensWith_unified (by decide)) (opensWith_unified (by decide))

end ImportBlock

namespace Disk

variable {disk left : Disk} {path : Path} {place route : Route} {text : String}

theorem fromUTF8?_toUTF8 (text : String) : String.fromUTF8? text.toUTF8 = some text := by
  unfold String.fromUTF8?
  simp only [String.toUTF8_eq_toByteArray]
  exact dif_pos text.isValidUTF8

theorem decode_toUTF8 (text : String) : decode text.toUTF8 = .ok (Lines.unified text) := by
  rw [decode, fromUTF8?_toUTF8]

theorem readText_of_openFile {number : Nat} (opened : disk.openFile path = .ok number) :
    disk.readText path = decode (disk.bytes number) := by
  rw [readText, readBytes, opened]
  rfl

theorem handle_listDir {names : List String} :
    handle (.listDir path) disk = .ok (names, left) ↔ disk.list path = .ok names ∧ disk = left := by
  rw [handle, Failure.about_eq_ok, except_pair_eq_ok]

theorem handle_isDir {directory : Bool} :
    handle (.isDir path) disk = .ok (directory, left) ↔
      disk.holdsDirectory path = .ok directory ∧ disk = left := by
  rw [handle, Failure.about_eq_ok, except_pair_eq_ok]

theorem handle_readText :
    handle (.readText path) disk = .ok (text, left) ↔
      disk.readText path = .ok text ∧ disk = left := by
  rw [handle, except_pair_eq_ok]

theorem handle_writeText :
    handle (.writeText path text) disk = .ok ((), left) ↔ disk.writeText path text = .ok left := by
  rw [handle, Failure.about_eq_ok, except_map_eq_ok]
  simp [Prod.ext_iff]

theorem handle_isStorage : Handler.IsStorage handle where
  unchanged := by
    intro request disk granted unwritten answered
    cases request with
    | listDir path => exact (handle_listDir.mp answered).2.symm
    | isDir path => exact (handle_isDir.mp answered).2.symm
    | readText path => exact (handle_readText.mp answered).2.symm
    | writeText path content => cases unwritten
    | note record =>
        cases answered
        rfl
  names_nodup := by
    intro path disk left names answered
    obtain ⟨place, -, rfl⟩ := list_eq_ok_iff.mp (handle_listDir.mp answered).1
    exact disk.listing_nodup place
  noted := fun _ _ => rfl

end Disk

end PageLinker
