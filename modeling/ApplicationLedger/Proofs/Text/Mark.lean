/-
This file says when texts that were joined with a mark between them can be told apart again: at the
first mark if there is none in what stands before it, at the last one if there is none behind, and
at no mark for sure if there may be others on both sides.
-/

import Mathlib.Data.List.Basic

namespace ApplicationLedger.Text

variable {mark : Char} {before before' behind behind' : List Char}

theorem append_firstMark_inj (absent : mark ∉ before) (absent' : mark ∉ before') :
    before ++ mark :: behind = before' ++ mark :: behind' ↔
      before = before' ∧ behind = behind' := by
  refine ⟨fun same => ?_, fun ⟨sameBefore, sameBehind⟩ => by rw [sameBefore, sameBehind]⟩
  induction before generalizing before' with
  | nil =>
    cases before' with
    | nil => exact ⟨rfl, (List.cons.inj same).2⟩
    | cons c rest' => exact absurd ((List.cons.inj same).1 ▸ List.mem_cons_self) absent'
  | cons c rest inductionHypothesis =>
    cases before' with
    | nil => exact absurd ((List.cons.inj same).1 ▸ List.mem_cons_self) absent
    | cons d rest' =>
      obtain ⟨rfl, others⟩ := List.cons.inj same
      obtain ⟨rfl, sameBehind⟩ := inductionHypothesis (List.not_mem_of_not_mem_cons absent)
        (List.not_mem_of_not_mem_cons absent') others
      exact ⟨rfl, sameBehind⟩

/-- Read backwards, the last mark is the first one. -/
theorem append_lastMark_inj (absent : mark ∉ behind) (absent' : mark ∉ behind') :
    before ++ mark :: behind = before' ++ mark :: behind' ↔
      before = before' ∧ behind = behind' := by
  have backwards : behind.reverse ++ mark :: before.reverse =
        behind'.reverse ++ mark :: before'.reverse ↔ behind = behind' ∧ before = before' := by
    rw [append_firstMark_inj (mt List.mem_reverse.mp absent) (mt List.mem_reverse.mp absent'),
      List.reverse_inj, List.reverse_inj]
  rw [← List.reverse_inj, and_comm, ← backwards]
  simp only [List.reverse_append, List.reverse_cons, List.append_assoc, List.singleton_append]

/-- Two texts are told by what they were joined to, among all that could have been joined to it, if
and only if the mark is in neither. -/
theorem append_mark_tells_iff :
    (∀ before' behind', before' ++ mark :: behind' = before ++ mark :: behind →
      before' = before ∧ behind' = behind) ↔ mark ∉ before ∧ mark ∉ behind := by
  constructor
  · intro told
    constructor
    · intro member
      obtain ⟨first, second, cut⟩ := List.append_of_mem member
      have moved := (told first (second ++ mark :: behind) (by simp [cut])).1
      exact List.cons_ne_nil _ _ (List.self_eq_append_right.mp (moved.trans cut))
    · intro member
      obtain ⟨first, second, cut⟩ := List.append_of_mem member
      have moved := (told (before ++ mark :: first) second (by simp [cut])).1
      exact List.cons_ne_nil _ _ (List.append_right_eq_self.mp moved)
  · rintro ⟨absent, absent'⟩ before' behind' same
    obtain ⟨sameBefore, -, sameBehind⟩ :=
      (List.append_cons_inj_of_notMem absent absent').mp same.symm
    exact ⟨sameBefore.symm, sameBehind.symm⟩

end ApplicationLedger.Text
