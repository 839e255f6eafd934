/-
This file proves that texts compare as their UTF-8 forms do, byte by byte. A character with more
bytes than another one begins with a greater byte, and among those with as many bytes the first byte
in which two characters differ is greater in the greater one. So the first character in which two
texts differ decides about their bytes as well.
-/

import Mathlib.Data.String.Basic
import ApplicationLedger.Table.Cell

namespace ApplicationLedger.Cell

/-! ### Texts character by character -/

theorem compareTexts_nil_cons (d : Char) (y : List Char) :
    compareTexts (.ofList []) (.ofList (d :: y)) = .lt := by
  refine if_pos (String.lt_iff_toList_lt.mpr ?_)
  simp only [String.toList_ofList, List.nil_lt_cons]

theorem compareTexts_cons_nil (c : Char) (x : List Char) :
    compareTexts (.ofList (c :: x)) (.ofList []) = .gt := by
  have notLess : ¬String.ofList (c :: x) < .ofList [] := by
    simp only [String.lt_iff_toList_lt, String.toList_ofList, List.not_lt_nil, not_false_iff]
  have notSame : ¬String.ofList (c :: x) = .ofList [] := fun same =>
    List.cons_ne_nil c x (String.ofList_inj.mp same)
  rw [compareTexts, if_neg notLess, if_neg notSame]

theorem compareTexts_cons (c d : Char) (x y : List Char) :
    compareTexts (.ofList (c :: x)) (.ofList (d :: y)) =
      (Ord.compare c d).then (compareTexts (.ofList x) (.ofList y)) := by
  simp only [compareTexts, String.lt_iff_toList_lt, String.toList_ofList, String.ofList_inj]
  rcases lt_trichotomy c d with less | rfl | greater
  · rw [compare_lt_iff_lt.mpr less, if_pos (List.cons_lt_cons_iff.mpr (.inl less))]
    rfl
  · rw [Std.compare_self]
    simp only [List.cons_lt_cons_self, List.cons.injEq, true_and]
    rfl
  · have notLess : ¬c :: x < d :: y := by
      rw [List.cons_lt_cons_iff]
      rintro (less | ⟨rfl, _⟩)
      · exact lt_asymm less greater
      · exact lt_irrefl c greater
    have notSame : ¬c :: x = d :: y := fun same => greater.ne' (List.cons.inj same).1
    rw [compare_gt_iff_gt.mpr greater, if_neg notLess, if_neg notSame]
    rfl

theorem compareTexts_ofList (x y : List Char) :
    compareTexts (.ofList x) (.ofList y) = Ord.compare x y := by
  induction x generalizing y with
  | nil =>
    cases y with
    | nil => rfl
    | cons d y => exact compareTexts_nil_cons d y
  | cons c x inductionHypothesis =>
    cases y with
    | nil => exact compareTexts_cons_nil c x
    | cons d y => rw [compareTexts_cons, inductionHypothesis, List.compare_cons_cons]

theorem compareTexts_eq_eq_iff (a b : String) : compareTexts a b = .eq ↔ a = b :=
  Std.compare_eq_iff_eq (α := String)

/-! ### Bytes character by character -/

theorem compareBytes_eq (x y : Bytes) : compareBytes x y = Ord.compare x y := by
  induction x generalizing y with
  | nil => cases y <;> rfl
  | cons a x inductionHypothesis =>
    cases y with
    | nil => rfl
    | cons b y => rw [compareBytes, inductionHypothesis, List.compare_cons_cons]

theorem compareBytes_append_left (bytes x y : Bytes) :
    compareBytes (bytes ++ x) (bytes ++ y) = compareBytes x y := by
  induction bytes with
  | nil => rfl
  | cons byte rest inductionHypothesis =>
    rw [List.cons_append, List.cons_append, compareBytes, Std.compare_self, inductionHypothesis]
    rfl

theorem compare_ofNat {a b : Nat} (bound : a < 256) (bound' : b < 256) :
    Ord.compare (UInt8.ofNat a) (UInt8.ofNat b) = Ord.compare a b := by
  show compareOfLessAndEq _ _ = compareOfLessAndEq _ _
  simp only [compareOfLessAndEq, UInt8.lt_iff_toNat_lt, ← UInt8.toNat_inj, UInt8.toNat_ofNat',
    Nat.mod_eq_of_lt bound, Nat.mod_eq_of_lt bound']

/-- The bytes of a character are less than those of a greater one, whatever follows. -/
theorem compareBytes_encode_of_lt {c d : Char} (less : c < d) (x y : Bytes) :
    compareBytes (String.utf8EncodeChar c ++ x) (String.utf8EncodeChar d ++ y) = .lt := by
  have below : c.val.toNat < d.val.toNat := less
  have greatest : d.val.toNat < 1114112 := by
    rcases d.valid with low | ⟨_, high⟩
    · exact Nat.lt_trans low (by decide)
    · exact high
  have second (value : Nat) : value / 4096 = value / 64 / 64 := by omega
  have third (value : Nat) : value / 262144 = value / 64 / 64 / 64 := by omega
  unfold String.utf8EncodeChar
  generalize c.val.toNat = v at below
  generalize d.val.toNat = w at below greatest
  dsimp only
  -- If both have as many bytes, these are compared by their digits to the base 64.
  split_ifs <;>
    simp (disch := omega) only [List.cons_append, List.nil_append, compareBytes, compare_ofNat,
      second, third, Ordering.then_eq_lt, compare_lt_iff_lt, compare_eq_iff_eq] <;>
    omega

theorem compareBytes_encode (c d : Char) (x y : Bytes) :
    compareBytes (String.utf8EncodeChar c ++ x) (String.utf8EncodeChar d ++ y) =
      (Ord.compare c d).then (compareBytes x y) := by
  rcases lt_trichotomy c d with less | rfl | greater
  · rw [compareBytes_encode_of_lt less, compare_lt_iff_lt.mpr less]
    rfl
  · rw [compareBytes_append_left, Std.compare_self]
    rfl
  · rw [compareBytes_eq, Std.OrientedOrd.eq_swap, ← compareBytes_eq,
      compareBytes_encode_of_lt greater, compare_gt_iff_gt.mpr greater]
    rfl

theorem exists_cons_encode (c : Char) : ∃ byte rest, String.utf8EncodeChar c = byte :: rest :=
  List.exists_cons_of_ne_nil String.utf8EncodeChar_ne_nil

theorem ofText_ofList (text : List Char) :
    Bytes.ofText (.ofList text) = text.flatMap String.utf8EncodeChar := by
  show (String.ofList text).toByteArray.data.toList = _
  rw [String.toByteArray_ofList, List.utf8Encode, List.toList_data_toByteArray]

/-- Texts compare as their bytes do. -/
theorem compareBytes_ofText (a b : String) :
    compareBytes (.ofText a) (.ofText b) = compareTexts a b := by
  obtain ⟨x, rfl⟩ : ∃ x, a = .ofList x := ⟨_, a.ofList_toList.symm⟩
  obtain ⟨y, rfl⟩ : ∃ y, b = .ofList y := ⟨_, b.ofList_toList.symm⟩
  rw [ofText_ofList, ofText_ofList, compareTexts_ofList]
  induction x generalizing y with
  | nil =>
    cases y with
    | nil => rfl
    | cons d y =>
      obtain ⟨byte, rest, written⟩ := exists_cons_encode d
      rw [List.flatMap_cons, written]
      rfl
  | cons c x inductionHypothesis =>
    cases y with
    | nil =>
      obtain ⟨byte, rest, written⟩ := exists_cons_encode c
      rw [List.flatMap_cons, written]
      rfl
    | cons d y =>
      rw [List.flatMap_cons, List.flatMap_cons, compareBytes_encode, inductionHypothesis,
        List.compare_cons_cons]

end ApplicationLedger.Cell
