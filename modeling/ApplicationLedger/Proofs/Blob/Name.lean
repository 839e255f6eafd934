/-
This file says how the names that clients give their files are made up. A name is what leads to the
file, then its stem, then its extension; keys are made of the last two. Every name can be taken
apart in this way, and a key with some number is made of the parts whatever leads to the file.
-/

import ApplicationLedger.Proofs.Blob.Key

namespace ApplicationLedger.BlobKey

open Text (splitLast? splitLast?_append splitLast?_eq_none splitLast?_spec)

/-- Whether a character stands between the parts of a client's path. -/
def IsSeparator (c : Char) : Prop := c = '/' ∨ c = '\\'

theorem isSeparator_iff {c : Char} : (c == '/' || c == '\\') = true ↔ IsSeparator c := by
  rw [Bool.or_eq_true, beq_iff_eq, beq_iff_eq, IsSeparator]

theorem not_isSeparator_iff {c : Char} : (c == '/' || c == '\\') = false ↔ ¬IsSeparator c := by
  rw [← isSeparator_iff, Bool.not_eq_true]

/-- How a client's name is made up. What leads to the file is empty or ends with a separator. The
last part of the name has none; its extension begins with its last dot, and is empty without one. -/
structure IsMadeOf (name : String) (above stem extension : List Char) : Prop where
  joined : name.toList = above ++ (stem ++ extension)
  closed : above = [] ∨ ∃ front separator, IsSeparator separator ∧ above = front ++ [separator]
  plain : ∀ c ∈ stem ++ extension, ¬IsSeparator c
  isExtension : IsExtension extension
  dotless : extension = [] → '.' ∉ stem

/-! ### Taking names apart -/

theorem splitExtension_joined (name : List Char) :
    (splitExtension name).1 ++ (splitExtension name).2 = name := by
  have spec := splitLast?_spec (· == '.') name
  unfold splitExtension
  split at spec
  · rename_i split
    rw [split]
    exact List.append_nil name
  · rename_i before behind split
    obtain ⟨⟨c, dot, equal⟩, -⟩ := spec
    rw [split, equal, beq_iff_eq.mp dot]

/-- What leads to the file and the last part of a name are enough to tell all its parts. -/
theorem isMadeOf_of_joined {name : String} {above last : List Char}
    (joined : name.toList = above ++ last)
    (closed : above = [] ∨ ∃ front separator, IsSeparator separator ∧ above = front ++ [separator])
    (plain : ∀ c ∈ last, ¬IsSeparator c) :
    IsMadeOf name above (splitExtension last).1 (splitExtension last).2 where
  joined := by rw [splitExtension_joined, joined]
  closed := closed
  plain := by rwa [splitExtension_joined]
  isExtension := (splitExtension_spec last).1
  dotless := (splitExtension_spec last).2

/-- Every name is made up of some parts. -/
theorem exists_isMadeOf (name : String) :
    ∃ above stem extension, IsMadeOf name above stem extension := by
  have spec := splitLast?_spec (fun c => c == '/' || c == '\\') name.toList
  split at spec
  · have plain : ∀ c ∈ name.toList, ¬IsSeparator c :=
      fun c member => not_isSeparator_iff.mp (spec c member)
    exact ⟨[], _, _, isMadeOf_of_joined rfl (.inl rfl) plain⟩
  · rename_i front last _
    obtain ⟨⟨separator, isSeparator, equal⟩, unmarked⟩ := spec
    have joined : name.toList = (front ++ [separator]) ++ last := by rw [equal, List.append_cons]
    have plain : ∀ c ∈ last, ¬IsSeparator c :=
      fun c member => not_isSeparator_iff.mp (unmarked c member)
    have closed : ∃ before c, IsSeparator c ∧ front ++ [separator] = before ++ [c] :=
      ⟨front, separator, isSeparator_iff.mp isSeparator, rfl⟩
    exact ⟨front ++ [separator], _, _, isMadeOf_of_joined joined (.inr closed) plain⟩

/-- A name with a stem and an extension, in a directory. -/
theorem isMadeOf_cv : IsMadeOf "docs/cv.pdf" "docs/".toList "cv".toList ".pdf".toList where
  joined := rfl
  closed := .inr ⟨"docs".toList, '/', .inl rfl, rfl⟩
  plain := by simp [IsSeparator]
  isExtension := .inr ⟨"pdf".toList, rfl, by decide⟩
  dotless := nofun

section Parts

variable {name : String} {above stem extension : List Char}

theorem IsMadeOf.baseName_eq (made : IsMadeOf name above stem extension) :
    baseName name.toList = stem ++ extension := by
  have unmarked : ∀ c ∈ stem ++ extension, (c == '/' || c == '\\') = false :=
    fun c member => not_isSeparator_iff.mpr (made.plain c member)
  rw [baseName, made.joined]
  rcases made.closed with rfl | ⟨front, separator, isSeparator, rfl⟩
  · rw [List.nil_append, splitLast?_eq_none _ unmarked]
  · rw [List.append_assoc, List.singleton_append,
      splitLast?_append _ front _ (isSeparator_iff.mpr isSeparator) unmarked]

/-- Keys are made of the stem and the extension of a name. -/
theorem IsMadeOf.splitExtension_eq (made : IsMadeOf name above stem extension) :
    splitExtension (baseName name.toList) = (stem, extension) := by
  rw [made.baseName_eq]
  exact splitExtension_append stem made.isExtension made.dotless

/-- The key of a file is the first free one of those with its stem and its extension. -/
theorem IsMadeOf.exists_make_eq (made : IsMadeOf name above stem extension) (id : String)
    (time : Instant) (taken : List String) :
    ∃ number, IsFirstFree (numbered stem extension id time) taken 1 number ∧
      number ≤ taken.length + 1 ∧
      make name id time taken = numbered stem extension id time number := by
  have chosen := BlobKey.exists_make_eq name id time taken
  rwa [made.splitExtension_eq] at chosen

end Parts

end ApplicationLedger.BlobKey
