import Switchboard.Proofs.Json.Reading
import Switchboard.Storage
/-!
What is written to storage is there afterwards: the file under the same path, and every folder on
the way to it.
-/

set_option autoImplicit false
set_option relaxedAutoImplicit false

namespace Switchboard.Storage

variable {storage saved : Storage} {place start : Location} {thing : Kept}

theorem kept?_keep (isPlace : place ≠ []) (other : Location) :
    (storage.keep place thing).kept? other =
      if other = place then some thing else storage.kept? other := by
  by_cases same : other = place
  · subst same
    simp [kept?, keep, isPlace]
  · simp [kept?, keep, same, Ne.symm same]

section Paths

variable {place' : Location} {rest more : List String} {part : String}

theorem follow_cons_eq_ok (part : String) (rest : List String) :
    follow storage start (part :: rest) = .ok place ↔
      storage.kept? start = some .folder ∧
        follow storage (onward start part) rest = .ok place := by
  rw [follow]
  cases storage.kept? start with
  | none => simp
  | some thing =>
    cases thing with
    | folder => simp
    | file octets => simp

theorem follow_keep (isPlace : place ≠ []) (noFolder : storage.kept? place ≠ some .folder)
    {parts : List String} (found : follow storage start parts = .ok place') :
    follow (storage.keep place thing) start parts = .ok place' := by
  induction parts generalizing start with
  | nil => exact found
  | cons part rest ih =>
    obtain ⟨isFolder, onwards⟩ := (follow_cons_eq_ok part rest).mp found
    have elsewhere : start ≠ place := fun same => noFolder (same ▸ isFolder)
    refine (follow_cons_eq_ok part rest).mpr ⟨?_, ih onwards⟩
    rw [kept?_keep isPlace, if_neg elsewhere]
    exact isFolder

/-- Where a way leads on, the folders before are all there, so that none has to be made. -/
theorem makeFrom_of_follow {parts : List String}
    (found : follow storage start (parts ++ part :: more) = .ok place) :
    makeFrom storage start parts = .ok storage := by
  induction parts generalizing start with
  | nil => rfl
  | cons first rest ih =>
    obtain ⟨-, onwards⟩ := (follow_cons_eq_ok first _).mp found
    -- the way goes on behind this part, so it leads to a folder
    have isFolder : storage.kept? (onward start first) = some .folder := by
      cases rest with
      | nil => exact ((follow_cons_eq_ok part more).mp onwards).1
      | cons second rest => exact ((follow_cons_eq_ok second _).mp onwards).1
    simp only [makeFrom, isFolder]
    exact ih onwards

private theorem parts_toList (path : String) : parts path =
    ((path.toList.splitOn '/').map String.ofList).filter fun part => part ≠ "" ∧ part ≠ "." := rfl

theorem parts_slash (folder path : String) :
    parts (folder ++ "/" ++ path) = parts folder ++ parts path := by
  have chars : (folder ++ "/" ++ path).toList = folder.toList ++ '/' :: path.toList := by
    rw [String.toList_append, String.toList_append, List.append_assoc]
    rfl
  rw [parts_toList, chars, List.splitOn_append_cons_self, List.map_append, List.filter_append]
  rfl

theorem parts_join (folder : String) {path : String} (relative : isAbsolute path = false) :
    parts (join folder path) = parts folder ++ parts path := by
  unfold join
  split
  · rename_i alone
    rcases alone with absolute | empty
    · rw [relative] at absolute
      cases absolute
    · rw [empty]
      rfl
  split
  · rename_i last
    -- a slash at the end of the folder stands before no part
    obtain ⟨front, isFront⟩ := List.getLast?_eq_some_iff.mp last
    have folder_eq : folder = String.ofList front ++ "/" ++ "" := by
      rw [← String.toList_inj]
      simp [isFront]
    have joined : folder ++ path = String.ofList front ++ "/" ++ path := by
      conv_lhs => rw [folder_eq]
      simp
    rw [joined, parts_slash, folder_eq, parts_slash]
    simp [parts]
  · exact parts_slash folder path

end Paths

section Files

variable {path : String} {octets : List UInt8}

theorem write_eq_ok_iff : storage.write path octets = .ok saved ↔
    ∃ place, storage.locate path = .ok place ∧ place ≠ [] ∧
      storage.kept? place ≠ some .folder ∧ namesFolder path = false ∧
      saved = storage.keep place (.file octets) := by
  constructor
  · intro written
    obtain ⟨place, located, written⟩ := bind_eq_ok_iff.mp written
    have noFolder : storage.kept? place ≠ some .folder := by
      intro isFolder
      simp [isFolder] at written
    have isPlace : place ≠ [] := by
      rintro rfl
      exact noFolder (by simp [kept?])
    -- whether a file is there already or not, the path may not end like one of a folder
    have done : namesFolder path = false ∧ storage.keep place (.file octets) = saved := by
      split at written
      · contradiction
      · split at written
        · cases written
        · rename_i named
          exact ⟨Bool.eq_false_iff.mpr named, Except.ok.inj written⟩
      · split at written
        · cases written
        · rename_i named
          exact ⟨Bool.eq_false_iff.mpr named, Except.ok.inj written⟩
    exact ⟨place, located, isPlace, noFolder, done.1, done.2.symm⟩
  · rintro ⟨place, located, -, noFolder, named, rfl⟩
    refine bind_eq_ok_iff.mpr ⟨place, located, ?_⟩
    split
    · contradiction
    · simp [named]
    · simp [named]

theorem exists_write (written : storage.write path octets = .ok saved) (others : List UInt8) :
    ∃ saved', storage.write path others = .ok saved' := by
  obtain ⟨place, located, isPlace, noFolder, named, -⟩ := write_eq_ok_iff.mp written
  exact ⟨_, write_eq_ok_iff.mpr ⟨place, located, isPlace, noFolder, named, rfl⟩⟩

theorem read_write (written : storage.write path octets = .ok saved) :
    saved.read path = .ok octets := by
  obtain ⟨place, located, isPlace, noFolder, named, rfl⟩ := write_eq_ok_iff.mp written
  have stillLocated : (storage.keep place (.file octets)).locate path = .ok place :=
    follow_keep isPlace noFolder located
  have there : (storage.keep place (.file octets)).kept? place = some (.file octets) := by
    rw [kept?_keep isPlace, if_pos rfl]
  refine bind_eq_ok_iff.mpr ⟨place, stillLocated, ?_⟩
  simp [there, named]

theorem makeFolders_of_write {folder name : String} (relative : isAbsolute name = false)
    (isNamed : parts name ≠ [])
    (written : storage.write (join folder name) octets = .ok saved) :
    saved.makeFolders folder = .ok saved := by
  obtain ⟨place, located, isPlace, noFolder, -, rfl⟩ := write_eq_ok_iff.mp written
  obtain ⟨part, more, ofName⟩ := List.exists_cons_of_ne_nil isNamed
  have still : follow (storage.keep place (.file octets)) [] (parts folder ++ part :: more) =
      .ok place := by
    have located' : follow storage [] (parts (join folder name)) = .ok place := located
    rw [parts_join folder relative, ofName] at located'
    exact follow_keep isPlace noFolder located'
  exact makeFrom_of_follow still

end Files

end Switchboard.Storage
