/-
This file says what storing and removing an object does to the tree of a bucket. Both name places
directly below the directory of the bucket; neither makes or removes a directory. An object that is
stored passes through a place of its own beside it, and whatever stood there is gone.
-/

import ApplicationLedger.Blob.Bucket
import ApplicationLedger.Proofs.Blob.Name
import ApplicationLedger.Proofs.FileTree

namespace ApplicationLedger

/-! ### Keys -/

/-- Whether a name is one ordinary step of a path: it holds neither separators nor zeros, and leads
neither to where one is nor upwards. -/
structure IsOrdinary (name : String) : Prop where
  nonempty : name ≠ ""
  plain : ∀ c ∈ name.toList, ¬BlobKey.IsSeparator c
  unbroken : '\x00' ∉ name.toList
  step : name ≠ "." ∧ name ≠ ".."

theorem IsOrdinary.slashless {name : String} (ordinary : IsOrdinary name) : '/' ∉ name.toList :=
  fun member => ordinary.plain _ member (.inl rfl)

/-- Valid keys are ordinary steps. -/
theorem BlobKey.isValid_iff {key : String} : isValid key = true ↔ IsOrdinary key := by
  simp only [isValid, Bool.and_eq_true, Bool.not_eq_true', List.any_eq_false, Bool.or_eq_true,
    beq_iff_eq, not_or, bne_iff_ne, ne_eq, String.isEmpty_eq_false_iff]
  constructor
  · rintro ⟨⟨⟨nonempty, plain⟩, dot⟩, dots⟩
    exact ⟨nonempty, fun c member => not_or.mpr (plain c member).1,
      fun member => (plain _ member).2 rfl, dot, dots⟩
  · rintro ⟨nonempty, plain, unbroken, dot, dots⟩
    refine ⟨⟨⟨nonempty, fun c member => ⟨not_or.mp (plain c member), ?_⟩⟩, dot⟩, dots⟩
    rintro rfl
    exact unbroken member

theorem BlobKey.isValid_spec {key : String} (valid : isValid key = true) :
    key ≠ "" ∧ '\x00' ∉ key.toList ∧ key ≠ "." ∧ key ≠ ".." :=
  have ordinary := isValid_iff.mp valid
  ⟨ordinary.nonempty, ordinary.unbroken, ordinary.step⟩

namespace Bucket

/-- The name under which an object is written first. -/
def partName (key : String) : String := "." ++ key ++ ".part"

theorem length_partName (key : String) : (partName key).length = key.length + 6 := by
  rw [partName, String.length_append, String.length_append]
  show 1 + key.length + 5 = key.length + 6
  omega

theorem utf8ByteSize_partName (key : String) :
    (partName key).utf8ByteSize = key.utf8ByteSize + 6 := by
  rw [partName, String.utf8ByteSize_append, String.utf8ByteSize_append]
  show 1 + key.utf8ByteSize + 5 = key.utf8ByteSize + 6
  omega

theorem ne_partName (key : String) : key ≠ partName key := by
  intro same
  have length := congrArg String.length same
  rw [length_partName] at length
  omega

theorem partName_not_step (key : String) : partName key ≠ "." ∧ partName key ≠ ".." := by
  constructor
  all_goals
    intro same
    have length := congrArg String.length same
    rw [length_partName] at length
    cases length

theorem toList_partName (key : String) :
    (partName key).toList = ('.' :: key.toList) ++ ".part".toList := by
  rw [partName, String.toList_append, String.toList_append]
  rfl

theorem plain_partName {key : String} (plain : ∀ c ∈ key.toList, ¬BlobKey.IsSeparator c) :
    ∀ c ∈ (partName key).toList, ¬BlobKey.IsSeparator c := by
  have marks : ∀ c ∈ ".part".toList, ¬BlobKey.IsSeparator c := by simp [BlobKey.IsSeparator]
  intro c member
  rw [toList_partName, List.mem_append, List.mem_cons] at member
  rcases member with (rfl | member) | member
  · exact marks _ List.mem_cons_self
  · exact plain c member
  · exact marks c member

/-- The name under which an object is written first is as ordinary as that of the object. -/
theorem isOrdinary_partName {key : String} (ordinary : IsOrdinary key) :
    IsOrdinary (partName key) where
  nonempty empty := by
    have length := congrArg String.length empty
    rw [length_partName] at length
    cases length
  plain := plain_partName ordinary.plain
  unbroken member := by
    rw [toList_partName, List.mem_append, List.mem_cons] at member
    rcases member with (dot | member) | member
    · cases dot
    · exact ordinary.unbroken member
    · exact absurd member (by decide)
  step := partName_not_step key

/-! ### Places -/

/-- Whether the directory of a bucket is there, in some place. -/
structure IsAt (b : Bucket) (t : FileTree) (place : Path) : Prop where
  located : t.locate b.directory = .ok place
  isDirectory : t.node? place = some .directory

variable {b : Bucket} {t : FileTree} {place : Path} {key : String}

theorem IsAt.of_sameDirectories {t' : FileTree} (isAt : b.IsAt t place)
    (same : t.SameDirectories t') : b.IsAt t' place :=
  ⟨FileTree.locate_of_directories (fun other => (same other).mpr) isAt.located,
    (same place).mpr isAt.isDirectory⟩

/-- A bucket that was opened has the name of an ordinary step, and a directory of that name was made
below the root. -/
theorem open?_spec {created : FileTree} {root name publicUrl : String} {signer : LinkSigner}
    (opened : open? t root name signer publicUrl = .ok (created, b)) :
    IsOrdinary name ∧ b.directory = Path.ofText (Path.join root name) ∧
      t.createDirectories b.directory = .ok created := by
  unfold open? at opened
  split at opened
  · rename_i valid
    dsimp only at opened
    split at opened
    · rename_i made
      cases opened
      exact ⟨BlobKey.isValid_iff.mp valid, rfl, made⟩
    · cases opened
  · cases opened

theorem locate_objectPath (isAt : b.IsAt t place) (valid : BlobKey.isValid key = true) :
    t.locate (b.objectPath key) =
      if key.utf8ByteSize > FileTree.greatestName then .error .nameTooLong
      else .ok (place ++ [key]) := by
  obtain ⟨_, unbroken, step⟩ := BlobKey.isValid_spec valid
  exact FileTree.locate_child isAt.located isAt.isDirectory unbroken step

theorem locate_partPath (isAt : b.IsAt t place) (valid : BlobKey.isValid key = true) :
    t.locate (b.partPath key) =
      if key.utf8ByteSize + 6 > FileTree.greatestName then .error .nameTooLong
      else .ok (place ++ [partName key]) := by
  have ordinary := isOrdinary_partName (BlobKey.isValid_iff.mp valid)
  rw [← utf8ByteSize_partName]
  exact FileTree.locate_child isAt.located isAt.isDirectory ordinary.unbroken ordinary.step

theorem append_ne_nil (place : Path) (name : String) : place ++ [name] ≠ [] :=
  List.append_ne_nil_of_right_ne_nil _ (List.cons_ne_nil _ _)

theorem append_ne_of_ne {name other : String} (apart : name ≠ other) (place : Path) :
    place ++ [name] ≠ place ++ [other] :=
  fun same => apart (List.singleton_inj.mp (List.append_cancel_left same))

/-! ### Storing -/

/-- The fault when an object cannot be stored. -/
def putFault (key : String) (fault : SystemFault) : Fault :=
  .blob ("Failed to upload " ++ key ++ ": " ++ fault.message)

/-- The fault when an object that is there cannot be removed. -/
def deleteFault (key : String) (fault : SystemFault) : Fault :=
  .blob ("Failed to delete " ++ key ++ ": " ++ fault.message)

/-- An object is stored unless its key is too long or a directory is in the way. What stood in the
place of its first writing is gone, also if the object cannot be moved on from there. -/
theorem put_eq (isAt : b.IsAt t place) (valid : BlobKey.isValid key = true) (content : Bytes) :
    b.put key content t =
      if key.utf8ByteSize + 6 > FileTree.greatestName then
        (t, .error (putFault key .nameTooLong))
      else if t.node? (place ++ [partName key]) = some .directory then
        (t, .error (putFault key .isADirectory))
      else if t.node? (place ++ [key]) = some .directory then
        (t.erase (place ++ [partName key]), .error (putFault key .isADirectory))
      else
        ((t.erase (place ++ [partName key])).insert (place ++ [key]) (.file content), .ok ()) := by
  have checked : BlobKey.check key = .ok () := if_pos valid
  have toPart := locate_partPath isAt valid
  rw [put, checked]
  by_cases long : key.utf8ByteSize + 6 > FileTree.greatestName
  · rw [if_pos long] at toPart ⊢
    simp only [FileTree.write, FileTree.remove, toPart, bind, Except.bind]
    rfl
  rw [if_neg long] at toPart ⊢
  rw [FileTree.write_eq toPart]
  by_cases blocked : t.node? (place ++ [partName key]) = some .directory
  · rw [if_pos blocked, if_pos blocked]
    simp only [FileTree.remove_eq toPart, blocked]
    rfl
  rw [if_neg blocked, if_neg blocked]
  -- The half of the object is there now, and the directories are as they were.
  have written := isAt.of_sameDirectories (FileTree.sameDirectories_insert blocked content)
  have fromPart := locate_partPath written valid
  have toObject := locate_objectPath written valid
  rw [if_neg long] at fromPart
  rw [if_neg (by omega)] at toObject
  have half : (t.insert (place ++ [partName key]) (.file content)).node?
      (place ++ [partName key]) = some (.file content) :=
    FileTree.node?_insert_self (append_ne_nil place _)
  have moved := FileTree.rename_eq fromPart toObject half
  have removed := FileTree.remove_eq fromPart
  rw [FileTree.node?_insert_of_ne (append_ne_of_ne (ne_partName key) place),
    FileTree.erase_insert] at moved
  rw [half, FileTree.erase_insert] at removed
  dsimp only
  rw [moved]
  by_cases taken : t.node? (place ++ [key]) = some .directory
  · rw [if_pos taken, if_pos taken]
    dsimp only
    rw [removed]
    rfl
  · rw [if_neg taken, if_neg taken]

/-- How an object that was stored has left the tree. -/
theorem eq_of_put_eq_ok {t' : FileTree} {content : Bytes} (isAt : b.IsAt t place)
    (valid : BlobKey.isValid key = true) (stored : b.put key content t = (t', .ok ())) :
    key.utf8ByteSize + 6 ≤ FileTree.greatestName ∧
      t' = (t.erase (place ++ [partName key])).insert (place ++ [key]) (.file content) := by
  rw [put_eq isAt valid] at stored
  split at stored
  · cases stored
  split at stored
  · cases stored
  split at stored
  · cases stored
  · rename_i short _ _
    cases stored
    exact ⟨Nat.not_lt.mp short, rfl⟩

/-- An object is stored in a bucket at the root, if nothing is in the way. -/
theorem put_root {content : Bytes} (root : b.directory = [])
    (valid : BlobKey.isValid key = true)
    (short : key.utf8ByteSize + 6 ≤ FileTree.greatestName)
    (free : t.node? (b.partPath key) = none) (noDirectory : t.node? [key] ≠ some .directory) :
    b.put key content t = (t.insert [key] (.file content), .ok ()) := by
  have isAt : b.IsAt t [] := ⟨by rw [root]; rfl, rfl⟩
  have part : b.partPath key = [partName key] := by rw [partPath, root]; rfl
  rw [part] at free
  rw [put_eq isAt valid, if_neg (Nat.not_lt.mpr short), List.nil_append, List.nil_append, free,
    if_neg nofun, if_neg noDirectory, FileTree.erase_of_free (List.cons_ne_nil _ _) free]

/-! ### Removing -/

/-- An object that is there is removed. -/
theorem delete_eq (isAt : b.IsAt t place) (valid : BlobKey.isValid key = true) :
    b.delete key t =
      if key.utf8ByteSize > FileTree.greatestName then
        (t, .error (deleteFault key .nameTooLong))
      else
        match t.node? (place ++ [key]) with
        | none => (t, .error (.notFound ("file " ++ key)))
        | some .directory => (t, .error (deleteFault key .isADirectory))
        | some (.file _) => (t.erase (place ++ [key]), .ok ()) := by
  have checked : BlobKey.check key = .ok () := if_pos valid
  have toObject := locate_objectPath isAt valid
  rw [delete, checked]
  dsimp only
  by_cases long : key.utf8ByteSize > FileTree.greatestName
  · rw [if_pos long] at toObject ⊢
    simp only [FileTree.remove, toObject, bind, Except.bind]
    rfl
  · rw [if_neg long] at toObject ⊢
    rw [FileTree.remove_eq toObject]
    rcases t.node? (place ++ [key]) with _ | content | _ <;> rfl

/-! ### Other places -/

theorem put_of_not_isValid (invalid : ¬BlobKey.isValid key = true) (content : Bytes) :
    (b.put key content t).1 = t := by
  rw [put, BlobKey.check, if_neg invalid]

theorem delete_of_not_isValid (invalid : ¬BlobKey.isValid key = true) :
    (b.delete key t).1 = t := by
  rw [delete, BlobKey.check, if_neg invalid]

/-- To store an object changes no place but its own and that of its first writing. -/
theorem node?_put_of_ne {other : Path} (isAt : b.IsAt t place) (apart : other ≠ place ++ [key])
    (noPart : other ≠ place ++ [partName key]) (content : Bytes) :
    (b.put key content t).1.node? other = t.node? other := by
  by_cases valid : BlobKey.isValid key = true
  · have erased := FileTree.node?_erase_of_ne (t := t) noPart
    rw [put_eq isAt valid]
    split
    · rfl
    split
    · rfl
    split
    · exact erased
    · exact (FileTree.node?_insert_of_ne apart).trans erased
  · rw [put_of_not_isValid valid]

/-- To remove an object changes no place but its own. -/
theorem node?_delete_of_ne {other : Path} (isAt : b.IsAt t place)
    (apart : other ≠ place ++ [key]) : (b.delete key t).1.node? other = t.node? other := by
  by_cases valid : BlobKey.isValid key = true
  · rw [delete_eq isAt valid]
    split
    · rfl
    · split
      · rfl
      · rfl
      · exact FileTree.node?_erase_of_ne apart
  · rw [delete_of_not_isValid valid]

section Lost

variable (lost : ∀ place, ¬b.IsAt t place)

include lost

/-- Without the directory of a bucket no path leads into it. -/
theorem exists_locate_eq_error {name : String} (step : name ≠ "." ∧ name ≠ "..") :
    ∃ fault, t.locate (b.directory ++ [name]) = .error fault := by
  cases found : t.locate (b.directory ++ [name]) with
  | error fault => exact ⟨fault, rfl⟩
  | ok other =>
    obtain ⟨place, located, isDirectory, -⟩ := FileTree.exists_of_locate_child step found
    exact absurd ⟨located, isDirectory⟩ (lost place)

theorem put_of_lost (key : String) (content : Bytes) : (b.put key content t).1 = t := by
  obtain ⟨fault, unlocated⟩ := exists_locate_eq_error lost (partName_not_step key)
  have toPart : t.locate (b.partPath key) = .error fault := unlocated
  by_cases valid : BlobKey.isValid key = true
  · have checked : BlobKey.check key = .ok () := if_pos valid
    simp only [put, checked, FileTree.write, FileTree.remove, toPart, bind, Except.bind]
    rfl
  · exact put_of_not_isValid valid content

theorem delete_of_lost (key : String) : (b.delete key t).1 = t := by
  by_cases valid : BlobKey.isValid key = true
  · have checked : BlobKey.check key = .ok () := if_pos valid
    obtain ⟨fault, unlocated⟩ := exists_locate_eq_error lost (BlobKey.isValid_iff.mp valid).step
    have toObject : t.locate (b.objectPath key) = .error fault := unlocated
    simp only [delete, checked, FileTree.remove, toObject, bind, Except.bind]
    cases fault <;> rfl
  · exact delete_of_not_isValid valid

end Lost

/-! ### Directories -/

/-- To store an object makes and removes no directory. -/
theorem sameDirectories_put (isAt : b.IsAt t place) (key : String) (content : Bytes) :
    t.SameDirectories (b.put key content t).1 := by
  by_cases valid : BlobKey.isValid key = true
  · rw [put_eq isAt valid]
    split
    · exact .refl t
    split
    · exact .refl t
    rename_i blocked
    have erased := FileTree.sameDirectories_erase blocked
    split
    · exact erased
    · rename_i taken
      exact erased.trans (FileTree.sameDirectories_insert (fun found => taken ((erased _).mp found))
        content)
  · rw [put_of_not_isValid valid]
    exact .refl t

/-- To remove an object makes and removes no directory. -/
theorem sameDirectories_delete (isAt : b.IsAt t place) (key : String) :
    t.SameDirectories (b.delete key t).1 := by
  by_cases valid : BlobKey.isValid key = true
  · rw [delete_eq isAt valid]
    split
    · exact .refl t
    cases found : t.node? (place ++ [key]) with
    | none => exact .refl t
    | some node =>
      cases node with
      | directory => exact .refl t
      | file content =>
        refine FileTree.sameDirectories_erase ?_
        rw [found]
        exact nofun
  · rw [delete_of_not_isValid valid]
    exact .refl t

end Bucket

end ApplicationLedger
