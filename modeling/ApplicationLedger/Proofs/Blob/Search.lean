/-
This file proves that the search for a free key comes to an end. Nothing bounds the search itself:
numbers are tried one after the other for as long as their keys are taken. It ends because the keys
of a family are different, so that the keys that are taken run out; then it has tried at most one
number more than keys are taken, and it ends with the key that is made for the file. The keys that
are made one after the other are therefore different, whatever the names of their files.
-/

import ApplicationLedger.Proofs.Blob.Name

namespace ApplicationLedger.BlobKey

/-! ### The search -/

/-- The greatest number of a search: it is counted in a word of 32 bits with a sign. -/
def greatestNumber : Nat := 2 ^ 31 - 1

/-- Whether some keys are those that are built, from a number on, until one of them is free. Nothing
bounds their count; a search without an end builds no such list. -/
inductive IsSearch (key : Nat → String) (taken : List String) : Nat → List String → Prop
  | found {number : Nat} (free : key number ∉ taken) : IsSearch key taken number [key number]
  | further {number : Nat} {later : List String} (member : key number ∈ taken)
      (rest : IsSearch key taken (number + 1) later) :
      IsSearch key taken number (key number :: later)

/-- There is one way only for a search to end. -/
theorem IsSearch.unique {key : Nat → String} {taken built built' : List String} {number : Nat}
    (search : IsSearch key taken number built) (search' : IsSearch key taken number built') :
    built = built' := by
  induction search generalizing built' with
  | found free =>
    cases search' with
    | found => rfl
    | further member => exact absurd member free
  | further member _ inductionHypothesis =>
    cases search' with
    | found free => exact absurd member free
    | further _ rest => rw [inductionHypothesis rest]

/-- A search ends with the first free key, and builds the keys up to that one. -/
theorem IsFirstFree.isSearch {key : Nat → String} {taken : List String} {first count : Nat}
    (isFirst : IsFirstFree key taken first (first + count)) :
    IsSearch key taken first ((List.range' first (count + 1)).map key) := by
  induction count generalizing first with
  | zero => exact .found isFirst.free
  | succ count inductionHypothesis =>
    have next : first + 1 + count = first + (count + 1) := by omega
    have behind : IsFirstFree key taken (first + 1) (first + 1 + count) :=
      ⟨Nat.le_add_right _ _, next ▸ isFirst.free, fun tried low high =>
        isFirst.earlier tried (Nat.le_of_succ_le low) (next ▸ high)⟩
    have member := isFirst.earlier first (Nat.le_refl _) (Nat.lt_add_of_pos_right count.succ_pos)
    exact .further member (inductionHypothesis behind)

/-! ### Keys made one after the other -/

/-- The keys for some names, behind others that are taken; each is taken for those behind it. -/
def makeAll (id : String) (time : Instant) (taken : List String) : List String → List String
  | [] => []
  | name :: rest =>
    let key := make name id time taken
    key :: makeAll id time (taken ++ [key]) rest

theorem not_mem_of_mem_makeAll (id : String) (time : Instant) (taken names : List String) :
    ∀ key ∈ makeAll id time taken names, key ∉ taken := by
  induction names generalizing taken with
  | nil => exact fun _ member => nomatch member
  | cons name rest inductionHypothesis =>
    intro key member
    rcases List.mem_cons.mp member with rfl | member
    · exact make_not_mem _ _ _ _
    · exact fun isTaken => inductionHypothesis _ key member (List.mem_append_left _ isTaken)

/-- No two names have one key. -/
theorem nodup_makeAll (id : String) (time : Instant) (taken names : List String) :
    (makeAll id time taken names).Nodup := by
  induction names generalizing taken with
  | nil => exact .nil
  | cons name rest inductionHypothesis =>
    refine List.nodup_cons.mpr ⟨fun member => ?_, inductionHypothesis _⟩
    exact not_mem_of_mem_makeAll _ _ _ _ _ member (List.mem_append_right _ List.mem_cons_self)

/-! ### The end of the search -/

/-- The search for the key of a file ends, with the key that is made: the first free one among those
of the stem, of the stem with a 2, with a 3 and so on. It builds at most one key more than are
taken, so its counter is never full. Keys made one after the other are different from each other and
from those that were taken before. -/
theorem search_ends_with_make {name : String} {above stem extension : List Char}
    {taken : List String} (made : IsMadeOf name above stem extension)
    (short : taken.length < greatestNumber) (id : String) (time : Instant) :
    (∃ number, IsFirstFree (numbered stem extension id time) taken 1 number ∧
      number ≤ taken.length + 1 ∧ number ≤ greatestNumber ∧
      (∀ built, IsSearch (numbered stem extension id time) taken 1 built ↔
        built = (List.range' 1 number).map (numbered stem extension id time)) ∧
      make name id time taken = numbered stem extension id time number) ∧
    make name id time taken ∉ taken ∧
    ∀ names : List String, (makeAll id time taken names).Nodup ∧
      ∀ key ∈ makeAll id time taken names, key ∉ taken := by
  refine ⟨?_, make_not_mem name id time taken, fun names =>
    ⟨nodup_makeAll id time taken names, not_mem_of_mem_makeAll id time taken names⟩⟩
  obtain ⟨number, isFirst, bound, equal⟩ := made.exists_make_eq id time taken
  obtain ⟨count, rfl⟩ := Nat.exists_eq_add_of_le isFirst.atLeast
  have search := isFirst.isSearch
  rw [Nat.add_comm count 1] at search
  refine ⟨1 + count, isFirst, bound, by omega, fun built => ⟨fun other => ?_, ?_⟩, equal⟩
  · exact other.unique search
  · rintro rfl
    exact search

/-- The keys of the first two files of one name. -/
def twoTaken : List String := ["cv-0000-010170_a.pdf", "cv (2)-0000-010170_a.pdf"]

/-- With these two keys taken the search builds three. -/
theorem search_ends_with_make_twoTaken :
    IsMadeOf "docs/cv.pdf" "docs/".toList "cv".toList ".pdf".toList ∧
      twoTaken.length < greatestNumber ∧
      IsSearch (numbered "cv".toList ".pdf".toList "a" ⟨0, 0⟩) twoTaken 1
        (twoTaken ++ ["cv (3)-0000-010170_a.pdf"]) ∧
      make "docs/cv.pdf" "a" ⟨0, 0⟩ twoTaken = "cv (3)-0000-010170_a.pdf" := by
  have short : twoTaken.length < greatestNumber := by decide
  obtain ⟨⟨number, isFirst, bound, -, built, equal⟩, -⟩ :=
    search_ends_with_make isMadeOf_cv short "a" ⟨0, 0⟩
  have notFirst : number ≠ 1 := by
    rintro rfl
    exact isFirst.free (by decide)
  have notSecond : number ≠ 2 := by
    rintro rfl
    exact isFirst.free (by decide)
  have three : number = 3 := by
    have atLeast := isFirst.atLeast
    have atMost : number ≤ 3 := bound
    omega
  subst three
  exact ⟨isMadeOf_cv, short, (built _).mpr rfl, equal⟩

end ApplicationLedger.BlobKey
