/-
This file says in how far a bucket is a map from keys to bytes. Whatever was stored and removed
before, storing an object and removing one change the object under that key and no other, and when
they fail they change nothing. There is one exception. An object is written under a name of its own
first, and that name is a key like others: an object that was stored under it is lost. Clients can
bring this about, for a file name may be made so that its key is the name of another file's half.
-/

import ApplicationLedger.Proofs.Blob.Bucket
import ApplicationLedger.Proofs.Blob.Key

namespace ApplicationLedger.Bucket

/-! ### Objects -/

/-- The object under a key. -/
def object? (b : Bucket) (t : FileTree) (key : String) : Option Bytes :=
  (t.read (b.objectPath key)).toOption

variable {b : Bucket} {t : FileTree} {place : Path} {key other : String}

theorem object?_eq (isAt : b.IsAt t place) (valid : BlobKey.isValid key = true) :
    b.object? t key =
      if key.utf8ByteSize > FileTree.greatestName then none
      else (t.node? (place ++ [key])).bind Node.content? := by
  have located := locate_objectPath isAt valid
  rw [object?]
  by_cases long : key.utf8ByteSize > FileTree.greatestName
  · rw [if_pos long] at located ⊢
    simp only [FileTree.read, located, bind, Except.bind]
    rfl
  · rw [if_neg long] at located ⊢
    exact FileTree.read_toOption located

/-- What stands in the place of an object says what the object is. -/
theorem object?_congr {t' : FileTree} (isAt : b.IsAt t place) (isAt' : b.IsAt t' place)
    (valid : BlobKey.isValid key = true)
    (same : t'.node? (place ++ [key]) = t.node? (place ++ [key])) :
    b.object? t' key = b.object? t key := by
  rw [object?_eq isAt valid, object?_eq isAt' valid, same]

/-! ### One call, in any tree -/

/-- To store an object changes no other object than the one with the name of its half, whatever
else stands in the directory of the bucket and however the call ends. -/
theorem object?_put_of_ne (isAt : b.IsAt t place) (valid : BlobKey.isValid other = true)
    (apart : other ≠ key) (noPart : other ≠ partName key) (content : Bytes) :
    b.object? (b.put key content t).1 other = b.object? t other := by
  have isAt' := isAt.of_sameDirectories (sameDirectories_put isAt key content)
  exact object?_congr isAt isAt' valid (node?_put_of_ne isAt (append_ne_of_ne apart place)
    (append_ne_of_ne noPart place) content)

/-- To remove an object changes no other one. -/
theorem object?_delete_of_ne (isAt : b.IsAt t place) (valid : BlobKey.isValid other = true)
    (apart : other ≠ key) :
    b.object? (b.delete key t).1 other = b.object? t other := by
  have isAt' := isAt.of_sameDirectories (sameDirectories_delete isAt key)
  exact object?_congr isAt isAt' valid (node?_delete_of_ne isAt (append_ne_of_ne apart place))

/-- An object that was stored is there. -/
theorem object?_put_self {t' : FileTree} {content : Bytes} (isAt : b.IsAt t place)
    (valid : BlobKey.isValid key = true) (stored : b.put key content t = (t', .ok ())) :
    b.object? t' key = some content := by
  have isAt' := isAt.of_sameDirectories (sameDirectories_put isAt key content)
  rw [stored] at isAt'
  obtain ⟨short, rfl⟩ := eq_of_put_eq_ok isAt valid stored
  rw [object?_eq isAt' valid, if_neg (by omega),
    FileTree.node?_insert_self (append_ne_nil place key)]
  rfl

theorem isValid_partName (valid : BlobKey.isValid key = true) :
    BlobKey.isValid (partName key) = true :=
  BlobKey.isValid_iff.mpr (isOrdinary_partName (BlobKey.isValid_iff.mp valid))

/-- The object with the name of its half is gone when an object was stored. -/
theorem object?_put_partName {t' : FileTree} {content : Bytes} (isAt : b.IsAt t place)
    (valid : BlobKey.isValid key = true) (stored : b.put key content t = (t', .ok ())) :
    b.object? t' (partName key) = none := by
  have isAt' := isAt.of_sameDirectories (sameDirectories_put isAt key content)
  rw [stored] at isAt'
  obtain ⟨_, rfl⟩ := eq_of_put_eq_ok isAt valid stored
  rw [object?_eq isAt' (isValid_partName valid),
    FileTree.node?_insert_of_ne (append_ne_of_ne (ne_partName key).symm place),
    FileTree.node?_erase_self (append_ne_nil place _)]
  exact ite_self none

/-- An object that was removed is there no more. -/
theorem object?_delete_self {t' : FileTree} (isAt : b.IsAt t place)
    (valid : BlobKey.isValid key = true) (removed : b.delete key t = (t', .ok ())) :
    b.object? t' key = none := by
  have isAt' := isAt.of_sameDirectories (sameDirectories_delete isAt key)
  rw [removed] at isAt'
  rw [object?_eq isAt' valid]
  rw [delete_eq isAt valid] at removed
  split at removed
  · cases removed
  · split at removed
    · cases removed
    · cases removed
    · cases removed
      rw [FileTree.node?_erase_self (append_ne_nil place key)]
      exact ite_self none

/-! ### Directories that hold objects only -/

/-- Whether no key leads to a directory. -/
def HoldsFiles (b : Bucket) (t : FileTree) : Prop :=
  ∀ key, BlobKey.isValid key = true → t.isDirectory (b.objectPath key) = false

theorem HoldsFiles.of_sameDirectories {t' : FileTree} (files : b.HoldsFiles t)
    (same : t.SameDirectories t') : b.HoldsFiles t' :=
  fun key valid => (same.isDirectory_eq _).trans (files key valid)

theorem HoldsFiles.not_directory (files : b.HoldsFiles t) (isAt : b.IsAt t place)
    (valid : BlobKey.isValid key = true) (short : key.utf8ByteSize ≤ FileTree.greatestName) :
    t.node? (place ++ [key]) ≠ some .directory := by
  intro found
  have located := locate_objectPath isAt valid
  rw [if_neg (Nat.not_lt.mpr short)] at located
  have isDirectory := FileTree.isDirectory_iff.mpr ⟨_, located, found⟩
  rw [files key valid] at isDirectory
  cases isDirectory

/-- Among objects, an object is stored unless its key is too long. -/
theorem put_eq_of_holdsFiles (files : b.HoldsFiles t) (isAt : b.IsAt t place)
    (valid : BlobKey.isValid key = true) (content : Bytes) :
    b.put key content t =
      if key.utf8ByteSize + 6 > FileTree.greatestName then
        (t, .error (putFault key .nameTooLong))
      else
        ((t.erase (place ++ [partName key])).insert (place ++ [key]) (.file content), .ok ()) := by
  rw [put_eq isAt valid]
  by_cases long : key.utf8ByteSize + 6 > FileTree.greatestName
  · rw [if_pos long, if_pos long]
  · have partShort : (partName key).utf8ByteSize ≤ FileTree.greatestName := by
      rw [utf8ByteSize_partName]
      omega
    rw [if_neg long, if_neg long,
      if_neg (files.not_directory isAt (isValid_partName valid) partShort),
      if_neg (files.not_directory isAt valid (by omega))]

/-- Among objects, an object is removed if it is there. -/
theorem delete_eq_of_holdsFiles (files : b.HoldsFiles t) (isAt : b.IsAt t place)
    (valid : BlobKey.isValid key = true) :
    b.delete key t =
      if b.object? t key = none then
        (t, .error (if key.utf8ByteSize ≤ FileTree.greatestName then .notFound ("file " ++ key)
          else deleteFault key .nameTooLong))
      else (t.erase (place ++ [key]), .ok ()) := by
  rw [delete_eq isAt valid, object?_eq isAt valid]
  by_cases long : key.utf8ByteSize > FileTree.greatestName
  · rw [if_pos long, if_pos long, if_pos rfl, if_neg (Nat.not_le.mpr long)]
  · have noDirectory := files.not_directory isAt valid (Nat.not_lt.mp long)
    rw [if_neg long, if_neg long, if_pos (Nat.not_lt.mp long)]
    cases found : t.node? (place ++ [key]) with
    | none => rfl
    | some node =>
      cases node with
      | directory => exact absurd found noDirectory
      | file content => rfl

/-! ### Many calls -/

/-- A call that changes a bucket. -/
inductive Call where
  | put (key : String) (content : Bytes)
  | delete (key : String)

/-- The tree after a call, however the call ended. -/
def after (b : Bucket) (t : FileTree) : Call → FileTree
  | .put key content => (b.put key content t).1
  | .delete key => (b.delete key t).1

/-- The tree after some calls. -/
def afterCalls (b : Bucket) (t : FileTree) (calls : List Call) : FileTree := calls.foldl b.after t

theorem sameDirectories_after (isAt : b.IsAt t place) (call : Call) :
    t.SameDirectories (b.after t call) := by
  cases call with
  | put key content => exact sameDirectories_put isAt key content
  | delete key => exact sameDirectories_delete isAt key

theorem sameDirectories_afterCalls (isAt : b.IsAt t place) (calls : List Call) :
    t.SameDirectories (b.afterCalls t calls) := by
  unfold afterCalls
  induction calls generalizing t with
  | nil => exact .refl t
  | cons call rest inductionHypothesis =>
    have first := sameDirectories_after isAt call
    exact first.trans (inductionHypothesis (isAt.of_sameDirectories first))

/-- A bucket that was opened has its directory. -/
theorem exists_isAt_of_open? {created : FileTree} {root name publicUrl : String}
    {signer : LinkSigner} (opened : open? t root name signer publicUrl = .ok (created, b)) :
    ∃ place, b.IsAt created place := by
  obtain ⟨-, -, made⟩ := open?_spec opened
  obtain ⟨place, located, found⟩ :=
    FileTree.isDirectory_iff.mp (FileTree.isDirectory_of_createDirectories made)
  exact ⟨place, located, found⟩

/-! ### The bucket as a map -/

/-- After any calls on a bucket that was opened, two different keys stand for two objects. An object
that is stored is there, and leaves the other one as it was, unless that has the name of its half:
then it is gone. An object that is removed is there no more, and leaves the other one as it was. A
missing object is not found, or its key is too long for any. A call that fails changes nothing; an
object is stored whenever its key is short enough, and removed whenever it is there. -/
theorem call_changes_own_object_and_part {created : FileTree} {root name publicUrl : String}
    {signer : LinkSigner} (opened : open? t root name signer publicUrl = .ok (created, b))
    (files : b.HoldsFiles created) (calls : List Call) (valid : BlobKey.isValid key = true)
    (valid' : BlobKey.isValid other = true) (apart : other ≠ key) (content : Bytes) :
    (∀ t', b.put key content (b.afterCalls created calls) = (t', .ok ()) →
      b.object? t' key = some content ∧
        b.object? t' other =
          if other = partName key then none else b.object? (b.afterCalls created calls) other) ∧
    (∀ t', b.delete key (b.afterCalls created calls) = (t', .ok ()) →
      b.object? t' key = none ∧ b.object? t' other = b.object? (b.afterCalls created calls) other) ∧
    (b.object? (b.afterCalls created calls) key = none →
      (b.delete key (b.afterCalls created calls)).2 =
        .error (if key.utf8ByteSize ≤ FileTree.greatestName then .notFound ("file " ++ key)
          else deleteFault key .nameTooLong)) ∧
    (∀ t' fault, b.put key content (b.afterCalls created calls) = (t', .error fault) →
      t' = b.afterCalls created calls) ∧
    (∀ t' fault, b.delete key (b.afterCalls created calls) = (t', .error fault) →
      t' = b.afterCalls created calls) ∧
    ((b.put key content (b.afterCalls created calls)).2 = .ok () ↔
      key.utf8ByteSize + 6 ≤ FileTree.greatestName) ∧
    ((b.delete key (b.afterCalls created calls)).2 = .ok () ↔
      b.object? (b.afterCalls created calls) key ≠ none) := by
  obtain ⟨place, isAt⟩ := exists_isAt_of_open? opened
  have same := sameDirectories_afterCalls isAt calls
  replace isAt := isAt.of_sameDirectories same
  replace files := files.of_sameDirectories same
  generalize b.afterCalls created calls = reached at isAt files
  have stored := put_eq_of_holdsFiles files isAt valid content
  have removed := delete_eq_of_holdsFiles files isAt valid
  refine ⟨fun t' ended => ⟨object?_put_self isAt valid ended, ?_⟩,
    fun t' ended => ⟨object?_delete_self isAt valid ended, ?_⟩, fun missing => ?_,
    fun t' fault ended => ?_, fun t' fault ended => ?_, ?_, ?_⟩
  · by_cases isPart : other = partName key
    · rw [if_pos isPart, isPart]
      exact object?_put_partName isAt valid ended
    · have kept := object?_put_of_ne isAt valid' apart isPart content
      rw [ended] at kept
      rwa [if_neg isPart]
  · have kept := object?_delete_of_ne isAt valid' apart
    rwa [ended] at kept
  · rw [removed, if_pos missing]
  · rw [stored] at ended
    split at ended
    · cases ended
      rfl
    · cases ended
  · rw [removed] at ended
    split at ended
    · cases ended
      rfl
    · cases ended
  · rw [stored]
    split
    · rename_i long
      exact iff_of_false nofun (Nat.not_le.mpr long)
    · rename_i short
      exact iff_of_true rfl (Nat.not_lt.mp short)
  · rw [removed]
    split
    · rename_i missing
      exact iff_of_false nofun (not_not_intro missing)
    · rename_i present
      exact iff_of_true rfl present

/-! ### An object that another one replaces -/

/-- A bucket below the root. -/
def sample : Bucket := ⟨"files", ["files"], ⟨[], 60⟩, "http://localhost"⟩

/-- The tree in which it was opened, with its directory alone. -/
def sampleTree : FileTree := FileTree.empty.insert ["files"] .directory

theorem open?_sample :
    open? .empty "" "files" ⟨[], 60⟩ "http://localhost" = .ok (sampleTree, sample) := by
  have joined : Path.join "" "files" = "files" := if_pos (by rw [Bool.or_eq_true]; exact .inr rfl)
  have located : FileTree.empty.locate ["files"] = .ok ["files"] :=
    FileTree.locate_name (by decide) (by decide) (by decide) _
  have made : FileTree.empty.createDirectory ["files"] = .ok sampleTree := by
    simp only [FileTree.createDirectory, located, bind, Except.bind]
    rfl
  have created : FileTree.empty.createDirectories (Path.ofText "files") = .ok sampleTree := by
    show FileTree.empty.createReversed ["files"] = _
    simp only [FileTree.createReversed, List.reverse_singleton, made]
  rw [open?, joined, if_pos (by decide)]
  simp only [created]
  rfl

theorem isAt_sample : sample.IsAt sampleTree ["files"] :=
  ⟨FileTree.locate_name (by decide) (by decide) (by decide) _, rfl⟩

theorem holdsFiles_sample : sample.HoldsFiles sampleTree := by
  intro key valid
  rw [Bool.eq_false_iff, ne_eq, FileTree.isDirectory_iff]
  rintro ⟨place, located, found⟩
  rw [locate_objectPath isAt_sample valid] at located
  split at located
  · cases located
  · cases located
    cases found

/-- Stores an object under the name that the half of the next one has, and another object. -/
def sampleCalls : List Call := [.put ".x.part" [1], .put "y" [2]]

theorem isAt_sampleCalls : sample.IsAt (sample.afterCalls sampleTree sampleCalls) ["files"] :=
  isAt_sample.of_sameDirectories (sameDirectories_afterCalls isAt_sample sampleCalls)

theorem holdsFiles_sampleCalls : sample.HoldsFiles (sample.afterCalls sampleTree sampleCalls) :=
  holdsFiles_sample.of_sameDirectories (sameDirectories_afterCalls isAt_sample sampleCalls)

theorem put_sample {t : FileTree} (isAt : sample.IsAt t ["files"]) (files : sample.HoldsFiles t)
    (key : String) (valid : BlobKey.isValid key = true)
    (short : key.utf8ByteSize + 6 ≤ FileTree.greatestName) (content : Bytes) :
    ∃ t', sample.put key content t = (t', .ok ()) := by
  rw [put_eq_of_holdsFiles files isAt valid, if_neg (Nat.not_lt.mpr short)]
  exact ⟨_, rfl⟩

/-- The two objects are there. -/
theorem object?_sampleCalls :
    sample.object? (sample.afterCalls sampleTree sampleCalls) ".x.part" = some [1] ∧
      sample.object? (sample.afterCalls sampleTree sampleCalls) "y" = some [2] := by
  have same := sameDirectories_after isAt_sample (.put ".x.part" [1])
  obtain ⟨first, stored⟩ := put_sample isAt_sample holdsFiles_sample ".x.part" (by decide)
    (by decide) [1]
  have isAt := isAt_sample.of_sameDirectories same
  have files := holdsFiles_sample.of_sameDirectories same
  rw [after, stored] at isAt files
  obtain ⟨second, stored'⟩ := put_sample isAt files "y" (by decide) (by decide) [2]
  have reached : sample.afterCalls sampleTree sampleCalls = second := by
    show sample.after (sample.after sampleTree (.put ".x.part" [1])) (.put "y" [2]) = second
    rw [after, after, stored, stored']
  have kept : sample.object? (sample.put "y" [2] first).1 ".x.part" = _ :=
    object?_put_of_ne isAt (by decide) (by decide) (by decide) [2]
  rw [stored'] at kept
  rw [reached]
  exact ⟨kept.trans (object?_put_self isAt_sample (by decide) stored),
    object?_put_self isAt (by decide) stored'⟩

/-- Then a third object takes the first one with it, and leaves the second alone. -/
theorem call_changes_own_object_and_part_sample :
    open? .empty "" "files" ⟨[], 60⟩ "http://localhost" = .ok (sampleTree, sample) ∧
      sample.HoldsFiles sampleTree ∧
      sample.object? (sample.afterCalls sampleTree sampleCalls) ".x.part" = some [1] ∧
      ∃ t', sample.put "x" [3] (sample.afterCalls sampleTree sampleCalls) = (t', .ok ()) ∧
        sample.object? t' "x" = some [3] ∧ sample.object? t' ".x.part" = none ∧
        sample.object? t' "y" = some [2] := by
  have valid : BlobKey.isValid "x" = true := by decide
  have stores (other : String) (valid' : BlobKey.isValid other = true) (apart : other ≠ "x") :=
    call_changes_own_object_and_part open?_sample holdsFiles_sample sampleCalls valid valid' apart
      [3]
  obtain ⟨t', stored⟩ := put_sample isAt_sampleCalls holdsFiles_sampleCalls "x" (by decide)
    (by decide) [3]
  obtain ⟨here, lost⟩ := (stores ".x.part" (by decide) (by decide)).1 t' stored
  obtain ⟨_, kept⟩ := (stores "y" (by decide) (by decide)).1 t' stored
  exact ⟨open?_sample, holdsFiles_sample, object?_sampleCalls.1, t', stored, here, lost,
    kept.trans object?_sampleCalls.2⟩

/-- So to store an object can change another one. -/
theorem not_forall_object?_put_eq :
    ¬ ∀ (t created : FileTree) (root name publicUrl : String) (signer : LinkSigner) (b : Bucket)
        (calls : List Call) (key other : String) (content : Bytes) (t' : FileTree),
      open? t root name signer publicUrl = .ok (created, b) → b.HoldsFiles created →
      BlobKey.isValid key = true → BlobKey.isValid other = true → other ≠ key →
      b.put key content (b.afterCalls created calls) = (t', .ok ()) →
        b.object? t' other = b.object? (b.afterCalls created calls) other := by
  intro kept
  have valid : BlobKey.isValid "x" = true := by decide
  have valid' : BlobKey.isValid ".x.part" = true := by decide
  obtain ⟨t', stored⟩ := put_sample isAt_sampleCalls holdsFiles_sampleCalls "x" valid
    (by decide) [3]
  have still : sample.object? t' ".x.part" =
      sample.object? (sample.afterCalls sampleTree sampleCalls) ".x.part" :=
    kept _ _ _ _ _ _ _ _ _ _ _ _ open?_sample holdsFiles_sample valid valid' (by decide) stored
  have half : partName "x" = ".x.part" := by decide
  have lost := object?_put_partName isAt_sampleCalls valid stored
  rw [half, still, object?_sampleCalls.1] at lost
  cases lost

/-! ### Names that clients choose -/

/-- The key of a half is the half of a key. -/
theorem format_partName (name id : String) (time : Instant) :
    BlobKey.format ('.' :: name.toList) ".part".toList id time =
      partName (BlobKey.format name.toList [] id time) := by
  refine String.toList_inj.mp ?_
  rw [toList_partName]
  simp only [BlobKey.format, String.toList_ofList, List.append_nil, List.cons_append]

/-- Two files of one upload can meet in this way. If one is called like the half of another one,
whose name has no extension, so are their keys: the second file takes the place of the first. -/
theorem make_partName {name : String} (dotless : '.' ∉ name.toList)
    (slashless : ∀ c ∈ name.toList, (c == '/' || c == '\\') = false) (id : String)
    (time : Instant) :
    BlobKey.make (partName name) id time [] =
      partName (BlobKey.make name id time [BlobKey.make (partName name) id time []]) := by
  have plain : ∀ c ∈ name.toList, ¬BlobKey.IsSeparator c :=
    fun c member => BlobKey.not_isSeparator_iff.mp (slashless c member)
  have whole : BlobKey.IsMadeOf name [] name.toList [] :=
    ⟨(List.append_nil _).symm, .inl rfl, by rwa [List.append_nil], .inl rfl, fun _ => dotless⟩
  have half : BlobKey.IsMadeOf (partName name) [] ('.' :: name.toList) ".part".toList :=
    ⟨toList_partName name, .inl rfl, toList_partName name ▸ plain_partName plain,
      .inr ⟨"part".toList, rfl, by decide⟩, nofun⟩
  have first : BlobKey.make (partName name) id time [] =
      partName (BlobKey.format name.toList [] id time) := by
    rw [BlobKey.make_eq, half.splitExtension_eq, ← format_partName]
    rfl
  have second : BlobKey.make name id time [partName (BlobKey.format name.toList [] id time)] =
      BlobKey.format name.toList [] id time := by
    have free : [partName (BlobKey.format name.toList [] id time)].contains
        (BlobKey.format name.toList [] id time) = false := by
      rw [List.contains_eq_mem, decide_eq_false_iff_not, List.mem_singleton]
      exact ne_partName _
    rw [BlobKey.make_eq, whole.splitExtension_eq]
    show (if [partName _].contains (BlobKey.format name.toList [] id time) = true then _ else _) = _
    rw [free]
    rfl
  rw [first, second]

end ApplicationLedger.Bucket
