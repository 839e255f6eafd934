/-
This file says which id is read out of the key of a file. A key is made as stem, time, id and
extension, and read from its last underscore on. Neither the id nor what stands around it in the
middle of a key has an underscore, so the last one is that before the id unless the extension of the
client's name has one of its own; then what follows that one is taken for the id.
-/

import ApplicationLedger.Proofs.Blob.Name
import ApplicationLedger.Proofs.Text.Mark

namespace ApplicationLedger.BlobKey

open Text (splitLast? splitLast?_append splitLast?_eq_none splitLast?_spec)

/-- The extension of the last part of a client's name, with its dot. -/
def extensionOf (name : String) : List Char := (splitExtension (baseName name.toList)).2

theorem isExtension_extensionOf (name : String) : IsExtension (extensionOf name) :=
  (splitExtension_spec _).1

theorem IsMadeOf.extensionOf_eq {name : String} {above stem extension : List Char}
    (made : IsMadeOf name above stem extension) : extensionOf name = extension :=
  congrArg Prod.snd made.splitExtension_eq

/-- A text with an underscore has a last one. -/
theorem exists_last_underscore {text : List Char} (member : '_' ∈ text) :
    ∃ before behind, text = before ++ '_' :: behind ∧ '_' ∉ behind := by
  have spec := splitLast?_spec (· == '_') text
  split at spec
  · exact absurd member (not_mem_of_unmarked spec)
  · obtain ⟨⟨c, mark, joined⟩, unmarked⟩ := spec
    obtain rfl : c = '_' := beq_iff_eq.mp mark
    exact ⟨_, _, joined, not_mem_of_unmarked unmarked⟩

theorem splitLast?_underscore {text before behind : List Char}
    (joined : text = before ++ '_' :: behind) (absent : '_' ∉ behind) :
    splitLast? (· == '_') text = some (before, behind) := by
  rw [joined, splitLast?_append (· == '_') before behind rfl (unmarked_of_not_mem absent)]

/-- What stands before and behind the last underscore of a text is told by the text. -/
theorem append_underscore_inj {before before' behind behind' : List Char} (absent : '_' ∉ behind)
    (absent' : '_' ∉ behind') (same : before ++ '_' :: behind = before' ++ '_' :: behind') :
    before = before' ∧ behind = behind' :=
  (Text.append_lastMark_inj absent absent').mp same

/-- A part of an extension behind one of its underscores has no dot, so it is read as it stands. -/
theorem splitExtension_behind {extension before behind : List Char}
    (isExtension : IsExtension extension) (marked : extension = before ++ '_' :: behind) :
    splitExtension behind = (behind, []) := by
  have absent : '.' ∉ behind := by
    rcases isExtension with rfl | ⟨rest, rfl, absent⟩
    · exact absurd marked.symm (List.append_ne_nil_of_right_ne_nil _ (List.cons_ne_nil _ _))
    · cases before with
      | nil => cases (List.cons.inj marked).1
      | cons c before =>
        rw [(List.cons.inj marked).2] at absent
        exact fun member => absent (List.mem_append_right _ (List.mem_cons_of_mem _ member))
  have read := splitExtension_append behind (.inl rfl) fun _ => absent
  rwa [List.append_nil] at read

section Format

variable (stem : List Char) {extension : List Char} {id : String} (time : Instant)

/-- If the extension has no underscore, the id is read that the key was made with. -/
theorem recordId?_format_of_not_mem (isExtension : IsExtension extension)
    (unmarked : '_' ∉ extension) (dotless : '.' ∉ id.toList) (noUnderscore : '_' ∉ id.toList) :
    recordId? (format stem extension id time) = some id := by
  have behind : ∀ c ∈ id.toList ++ extension, (c == '_') = false := by
    refine unmarked_of_not_mem fun member => ?_
    rcases List.mem_append.mp member with inId | inExtension
    · exact noUnderscore inId
    · exact unmarked inExtension
  rw [recordId?, format, String.toList_ofList, List.append_assoc, List.cons_append,
    splitLast?_append (· == '_') _ _ rfl behind]
  simp only [splitExtension_append id.toList isExtension fun _ => dotless, String.ofList_toList]

/-- If the extension has an underscore, what is read is the text behind its last one. -/
theorem recordId?_format_of_split {before behind : List Char} (isExtension : IsExtension extension)
    (split : splitLast? (· == '_') extension = some (before, behind)) :
    recordId? (format stem extension id time) = some (String.ofList behind) := by
  have spec := splitLast?_spec (· == '_') extension
  rw [split] at spec
  obtain ⟨⟨c, mark, joined⟩, unmarked⟩ := spec
  obtain rfl : c = '_' := beq_iff_eq.mp mark
  rw [recordId?, format, String.toList_ofList, joined, ← List.append_assoc,
    splitLast?_append (· == '_') _ _ rfl unmarked]
  simp only [splitExtension_behind isExtension joined]

end Format

section Make

variable {name id : String} (time : Instant) (taken : List String)

/-- A key is made of some stem and the extension of the client's name. -/
theorem exists_make_eq_format (name id : String) :
    ∃ stem, make name id time taken = format stem (extensionOf name) id time := by
  obtain ⟨_, -, -, equal⟩ := exists_make_eq name id time taken
  exact ⟨_, equal⟩

/-- The id of a record is read out of its keys, if the extension of the file has no underscore. -/
theorem recordId?_make_of_not_mem (unmarked : '_' ∉ extensionOf name) (dotless : '.' ∉ id.toList)
    (noUnderscore : '_' ∉ id.toList) : recordId? (make name id time taken) = some id := by
  obtain ⟨stem, equal⟩ := exists_make_eq_format time taken name id
  rw [equal]
  exact recordId?_format_of_not_mem stem time (isExtension_extensionOf name) unmarked dotless
    noUnderscore

/-- Otherwise a part of the extension is read in place of the id. -/
theorem recordId?_make_of_split {before behind : List Char}
    (split : splitLast? (· == '_') (extensionOf name) = some (before, behind)) :
    recordId? (make name id time taken) = some (String.ofList behind) := by
  obtain ⟨stem, equal⟩ := exists_make_eq_format time taken name id
  rw [equal]
  exact recordId?_format_of_split stem time (isExtension_extensionOf name) split

/-- The id of a record is read out of its key if and only if the extension of the file has no
underscore, or the id itself stands behind the last one. If there is an underscore, what stands
behind the last one is read; in no case nothing is read. -/
theorem recordId?_make_eq_some_iff {above stem extension : List Char}
    (named : IsMadeOf name above stem extension) (dotless : '.' ∉ id.toList)
    (noUnderscore : '_' ∉ id.toList) :
    (recordId? (make name id time taken) = some id ↔
      '_' ∉ extension ∨ ∃ before, extension = before ++ '_' :: id.toList) ∧
    (∀ before behind, extension = before ++ '_' :: behind → '_' ∉ behind →
      recordId? (make name id time taken) = some (String.ofList behind)) ∧
    recordId? (make name id time taken) ≠ none := by
  have behindLast (before behind : List Char) (joined : extension = before ++ '_' :: behind)
      (absent : '_' ∉ behind) :
      recordId? (make name id time taken) = some (String.ofList behind) := by
    have split : splitLast? (· == '_') (extensionOf name) = some (before, behind) := by
      rw [named.extensionOf_eq]
      exact splitLast?_underscore joined absent
    exact recordId?_make_of_split time taken split
  by_cases marked : '_' ∈ extension
  · obtain ⟨before, behind, joined, absent⟩ := exists_last_underscore marked
    have read := behindLast before behind joined absent
    refine ⟨?_, behindLast, by rw [read]; exact Option.some_ne_none _⟩
    rw [read, Option.some.injEq]
    constructor
    · rintro rfl
      rw [String.toList_ofList]
      exact .inr ⟨before, joined⟩
    · rintro (unmarked | ⟨front, joined'⟩)
      · exact absurd marked unmarked
      · have both := append_underscore_inj absent noUnderscore (joined.symm.trans joined')
        rw [both.2, String.ofList_toList]
  · have read := recordId?_make_of_not_mem time taken (by rwa [named.extensionOf_eq]) dotless
      noUnderscore
    refine ⟨iff_of_true read (.inl marked), behindLast, by rw [read]; exact Option.some_ne_none _⟩

end Make

theorem isMadeOf_marked :
    IsMadeOf "docs/cv.v1.p_df" "docs/".toList "cv.v1".toList ".p_df".toList where
  joined := rfl
  closed := .inr ⟨"docs".toList, '/', .inl rfl, rfl⟩
  plain := by simp [IsSeparator]
  isExtension := .inr ⟨"p_df".toList, rfl, by decide⟩
  dotless := nofun

/-- From one name the same text is read for two ids, and for one of them it is the id. -/
theorem recordId?_make_eq_some_iff_marked :
    IsMadeOf "docs/cv.v1.p_df" "docs/".toList "cv.v1".toList ".p_df".toList ∧
      recordId? (make "docs/cv.v1.p_df" "df" ⟨0, 0⟩ []) = some "df" ∧
      recordId? (make "docs/cv.v1.p_df" "a" ⟨0, 0⟩ []) = some "df" ∧
      recordId? (make "docs/cv.v1.p_df" "a" ⟨0, 0⟩ []) ≠ some "a" := by
  have dotless : '.' ∉ "df".toList := by decide
  have dotless' : '.' ∉ "a".toList := by decide
  have own := recordId?_make_eq_some_iff ⟨0, 0⟩ [] isMadeOf_marked dotless (by decide)
  have other := recordId?_make_eq_some_iff ⟨0, 0⟩ [] isMadeOf_marked dotless' (by decide)
  have read := other.2.1 ".p".toList "df".toList rfl (by decide)
  refine ⟨isMadeOf_marked, own.1.mpr (.inr ⟨".p".toList, rfl⟩), read, ?_⟩
  rw [read]
  decide

end ApplicationLedger.BlobKey
