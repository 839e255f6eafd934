/-
This file proves that clients cannot reach out of a bucket. Whatever a client calls a file, its key
holds no separator and is no step to elsewhere, and it is valid unless the last part of the name
holds a zero. A valid key is one ordinary step below the directory of the bucket, and so is the name
under which its object is written first; so the calls with it change nothing but places directly in
that directory. The calls with any other key change nothing at all.
-/

import ApplicationLedger.Proofs.Blob.Objects

namespace ApplicationLedger

/-! ### Keys of client names -/

namespace BlobKey

theorem check_eq_ok_iff {key : String} : check key = .ok () ↔ IsOrdinary key := by
  rw [← isValid_iff, check]
  split
  · rename_i valid
    exact iff_of_true rfl valid
  · rename_i invalid
    refine iff_of_false (fun accepted => ?_) invalid
    cases accepted

section Make

variable {name id : String} {above stem extension : List Char}

/-- The characters with which keys are not written themselves come from the name or the id. -/
theorem IsMadeOf.mem_make_iff (made : IsMadeOf name above stem extension) {c : Char}
    (other : isOwn c = false) (time : Instant) (taken : List String) :
    c ∈ (make name id time taken).toList ↔ c ∈ stem ++ extension ∨ c ∈ id.toList := by
  obtain ⟨number, -, -, equal⟩ := made.exists_make_eq id time taken
  rw [equal, numbered, mem_format_iff other, List.mem_append, mem_numberedStem_iff other,
    List.mem_append]

theorem isOwn_of_isSeparator {c : Char} (isSeparator : IsSeparator c) : isOwn c = false := by
  rcases isSeparator with rfl | rfl <;> rfl

variable (made : IsMadeOf name above stem extension)
  (idPlain : ∀ c ∈ id.toList, ¬IsSeparator c) (time : Instant) (taken : List String)

include made idPlain

theorem IsMadeOf.not_isSeparator_of_mem_make :
    ∀ c ∈ (make name id time taken).toList, ¬IsSeparator c := by
  intro c member isSeparator
  have own := isOwn_of_isSeparator isSeparator
  rcases (made.mem_make_iff own time taken).mp member with inName | inId
  · exact made.plain c inName isSeparator
  · exact idPlain c inId isSeparator

/-- The key of a file is valid unless the last part of the name holds a zero. -/
theorem IsMadeOf.check_make_iff (idUnbroken : '\x00' ∉ id.toList) :
    check (make name id time taken) = .ok () ↔ '\x00' ∉ stem ++ extension := by
  have zero : '\x00' ∈ (make name id time taken).toList ↔ '\x00' ∈ stem ++ extension :=
    (made.mem_make_iff rfl time taken).trans (or_iff_left idUnbroken)
  rw [check_eq_ok_iff, ← zero]
  exact ⟨IsOrdinary.unbroken, fun unbroken =>
    ⟨make_ne_empty name id time taken, made.not_isSeparator_of_mem_make idPlain time taken,
      unbroken, make_not_step name id time taken⟩⟩

end Make

end BlobKey

/-! ### Calls on a bucket -/

namespace Bucket

variable {b : Bucket} {t : FileTree}

/-- Whether two trees differ, if at all, in places directly below the directory of a bucket that
have one of some names. -/
def ChangesOnly (b : Bucket) (t t' : FileTree) (names : List String) : Prop :=
  ∀ place, t'.node? place ≠ t.node? place →
    ∃ directory, b.IsAt t directory ∧ ∃ name ∈ names, place = directory ++ [name]

theorem changesOnly_put (key : String) (content : Bytes) :
    b.ChangesOnly t (b.put key content t).1 [partName key, key] := by
  intro place changed
  by_cases lost : ∀ directory, ¬b.IsAt t directory
  · rw [put_of_lost lost] at changed
    exact absurd rfl changed
  · obtain ⟨directory, isAt⟩ := not_forall_not.mp lost
    refine ⟨directory, isAt, ?_⟩
    by_contra elsewhere
    simp only [List.mem_cons, List.not_mem_nil, or_false, exists_eq_or_imp, exists_eq_left,
      not_or] at elsewhere
    exact changed (node?_put_of_ne isAt elsewhere.2 elsewhere.1 content)

theorem changesOnly_delete (key : String) : b.ChangesOnly t (b.delete key t).1 [key] := by
  intro place changed
  by_cases lost : ∀ directory, ¬b.IsAt t directory
  · rw [delete_of_lost lost] at changed
    exact absurd rfl changed
  · obtain ⟨directory, isAt⟩ := not_forall_not.mp lost
    refine ⟨directory, isAt, key, List.mem_cons_self, ?_⟩
    by_contra elsewhere
    exact changed (node?_delete_of_ne isAt elsewhere)

/-- Written below the directory of a bucket, an ordinary name is one step behind it. -/
theorem ofText_join_directory {created : FileTree} {root bucket publicUrl name : String}
    {signer : LinkSigner} (opened : open? t root bucket signer publicUrl = .ok (created, b))
    (ordinary : IsOrdinary name) :
    Path.ofText (Path.join (Path.join root bucket) name) = b.directory ++ [name] := by
  obtain ⟨bucketOrdinary, directory, -⟩ := open?_spec opened
  have bare := Path.getLast?_join bucketOrdinary.nonempty bucketOrdinary.slashless root
  rw [directory]
  exact Path.ofText_join bare ordinary.nonempty ordinary.slashless

/-- With a key that is refused nothing is done. -/
theorem refused_of_check {key : String} {fault : Fault} (refused : BlobKey.check key = .error fault)
    (t : FileTree) (content : Bytes) (headers : ContentHeaders) (now : Instant) :
    b.put key content t = (t, .error fault) ∧ b.delete key t = (t, .error fault) ∧
      b.link key headers now = .error fault := by
  refine ⟨?_, ?_, ?_⟩
  · rw [put, refused]
  · rw [delete, refused]
  · rw [link, refused]
    rfl

/-- No name that a client gives its file leads out of a bucket. The key that is made for it has no
separator, is neither empty nor a step to elsewhere, and is accepted if and only if the last part of
the name holds no zero. To store, to remove or to link a key that is refused changes nothing. A key
that is accepted is one ordinary step, and so is the name under which its object is written first:
the paths of both are the directory of the bucket and that step behind it, and to store or to remove
the object changes no place but these. A link to it is given, and changes nothing at all. -/
theorem names_stay_in_bucket {created : FileTree} {root bucket publicUrl : String}
    {signer : LinkSigner} (opened : open? t root bucket signer publicUrl = .ok (created, b))
    {name id : String} {above stem extension : List Char}
    (made : BlobKey.IsMadeOf name above stem extension)
    (idPlain : ∀ c ∈ id.toList, ¬BlobKey.IsSeparator c) (idUnbroken : '\x00' ∉ id.toList)
    (time : Instant) (taken : List String) :
    ((∀ c ∈ (BlobKey.make name id time taken).toList, ¬BlobKey.IsSeparator c) ∧
      BlobKey.make name id time taken ≠ "" ∧ BlobKey.make name id time taken ≠ "." ∧
      BlobKey.make name id time taken ≠ ".." ∧
      (BlobKey.check (BlobKey.make name id time taken) = .ok () ↔ '\x00' ∉ stem ++ extension)) ∧
    (∀ key fault, BlobKey.check key = .error fault → ∀ t content headers now,
      b.put key content t = (t, .error fault) ∧ b.delete key t = (t, .error fault) ∧
        b.link key headers now = .error fault) ∧
    ∀ key, BlobKey.check key = .ok () →
      (∀ step ∈ [key, partName key], IsOrdinary step ∧
        Path.ofText (Path.join (Path.join root bucket) step) =
          Path.ofText (Path.join root bucket) ++ [step]) ∧
      b.objectPath key = Path.ofText (Path.join (Path.join root bucket) key) ∧
      b.partPath key = Path.ofText (Path.join (Path.join root bucket) (partName key)) ∧
      ∀ t content headers now,
        b.ChangesOnly t (b.put key content t).1 [partName key, key] ∧
        b.ChangesOnly t (b.delete key t).1 [key] ∧ ∃ l, b.link key headers now = .ok l := by
  refine ⟨⟨made.not_isSeparator_of_mem_make idPlain time taken,
    BlobKey.make_ne_empty name id time taken, (BlobKey.make_not_step name id time taken).1,
    (BlobKey.make_not_step name id time taken).2,
    made.check_make_iff idPlain time taken idUnbroken⟩, fun key fault => refused_of_check, ?_⟩
  intro key accepted
  have ordinary := BlobKey.check_eq_ok_iff.mp accepted
  have partOrdinary := isOrdinary_partName ordinary
  obtain ⟨-, directory, -⟩ := open?_spec opened
  have toObject := ofText_join_directory opened ordinary
  have toPart := ofText_join_directory opened partOrdinary
  refine ⟨?_, toObject.symm, toPart.symm, fun t content headers now => ?_⟩
  · rw [List.forall_mem_cons, List.forall_mem_singleton, ← directory]
    exact ⟨⟨ordinary, toObject⟩, partOrdinary, toPart⟩
  · refine ⟨changesOnly_put key content, changesOnly_delete key, ?_⟩
    rw [link, accepted]
    exact ⟨_, rfl⟩

/-- A name that leads upwards makes a key like others; a key that leads upwards is refused. -/
theorem names_stay_in_bucket_sample :
    BlobKey.IsMadeOf "../up\\cv.pdf" "../up\\".toList "cv".toList ".pdf".toList ∧
      open? .empty "" "files" ⟨[], 60⟩ "http://localhost" = .ok (sampleTree, sample) ∧
      BlobKey.check (BlobKey.make "../up\\cv.pdf" "a" ⟨0, 0⟩ []) = .ok () ∧
      (∃ fault, BlobKey.check "../x" = .error fault ∧
        sample.put "../x" [1] sampleTree = (sampleTree, .error fault)) ∧
      BlobKey.check "x" = .ok () ∧ sample.objectPath "x" = ["files", "x"] ∧
      sample.ChangesOnly sampleTree (sample.put "x" [1] sampleTree).1 [".x.part", "x"] := by
  have made : BlobKey.IsMadeOf "../up\\cv.pdf" "../up\\".toList "cv".toList ".pdf".toList :=
    ⟨rfl, .inr ⟨"../up".toList, '\\', .inr rfl, rfl⟩, by simp [BlobKey.IsSeparator],
      .inr ⟨"pdf".toList, rfl, by decide⟩, nofun⟩
  have idPlain : ∀ c ∈ "a".toList, ¬BlobKey.IsSeparator c := by simp [BlobKey.IsSeparator]
  obtain ⟨key, refused, accepted⟩ :=
    names_stay_in_bucket open?_sample made idPlain (by decide) ⟨0, 0⟩ []
  have invalid : BlobKey.check "../x" = .error _ := if_neg (by decide)
  have valid : BlobKey.check "x" = .ok () := if_pos (by decide)
  have part : partName "x" = ".x.part" := by decide
  have changes := ((accepted "x" valid).2.2.2 sampleTree [1] ⟨"", ""⟩ ⟨0, 0⟩).1
  rw [part] at changes
  exact ⟨made, open?_sample, key.2.2.2.2.mpr (by decide), ⟨_, invalid,
    (refused _ _ invalid sampleTree [1] ⟨"", ""⟩ ⟨0, 0⟩).1⟩, valid, rfl, changes⟩

end Bucket

end ApplicationLedger
