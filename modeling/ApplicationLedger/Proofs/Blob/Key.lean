/-
This file proves that keys of files never meet by accident. Whatever a client calls its files, the
stem of a key ends with an underscore and the id of the record, because the last dot of a key is the
dot of its extension; so keys of records with different ids of one length are different. Within a
record, a new key is none of those that are taken: there are more numbers to try than keys taken.
-/

import Mathlib.Data.List.Perm.Subperm
import Mathlib.Data.List.Nodup
import ApplicationLedger.Blob.Key
import ApplicationLedger.Bytes.Uuid
import ApplicationLedger.Proofs.Instant.Text

namespace ApplicationLedger

/-! ### Splitting at the last mark -/

namespace Text

variable (isMark : Char → Bool)

theorem splitLast?_eq_none {text : List Char} (unmarked : ∀ c ∈ text, isMark c = false) :
    splitLast? isMark text = none := by
  induction text with
  | nil => rfl
  | cons c rest inductionHypothesis =>
    have first : isMark c = false := unmarked c List.mem_cons_self
    have others := inductionHypothesis fun d member => unmarked d (List.mem_cons_of_mem c member)
    simp only [splitLast?, others, first, Bool.false_eq_true, if_false]

/-- A text is split at a mark behind which there is no other. -/
theorem splitLast?_append (before behind : List Char) {c : Char} (mark : isMark c = true)
    (unmarked : ∀ d ∈ behind, isMark d = false) :
    splitLast? isMark (before ++ c :: behind) = some (before, behind) := by
  induction before with
  | nil =>
    simp only [List.nil_append, splitLast?, splitLast?_eq_none isMark unmarked, mark, if_true]
  | cons d rest inductionHypothesis =>
    simp only [List.cons_append, splitLast?, inductionHypothesis]

/-- Where a text is split, there is a mark, and none behind it. -/
theorem splitLast?_spec (text : List Char) :
    match splitLast? isMark text with
    | none => ∀ c ∈ text, isMark c = false
    | some (before, behind) =>
      (∃ c, isMark c = true ∧ text = before ++ c :: behind) ∧ ∀ d ∈ behind, isMark d = false := by
  induction text with
  | nil => exact fun c member => nomatch member
  | cons c rest inductionHypothesis =>
    simp only [splitLast?]
    cases split : splitLast? isMark rest with
    | some parts =>
      obtain ⟨before, behind⟩ := parts
      rw [split] at inductionHypothesis
      obtain ⟨⟨d, mark, equal⟩, unmarked⟩ := inductionHypothesis
      exact ⟨⟨d, mark, congrArg (c :: ·) equal⟩, unmarked⟩
    | none =>
      rw [split] at inductionHypothesis
      by_cases mark : isMark c = true
      · rw [if_pos mark]
        exact ⟨⟨c, mark, rfl⟩, inductionHypothesis⟩
      · rw [if_neg mark]
        intro d member
        rcases List.mem_cons.mp member with rfl | member
        · exact Bool.eq_false_iff.mpr mark
        · exact inductionHypothesis d member

end Text

namespace BlobKey

open Text (splitLast? splitLast?_append splitLast?_eq_none splitLast?_spec)

/-! ### Extensions -/

/-- An extension is empty, or it begins with a dot and has no other. -/
def IsExtension (extension : List Char) : Prop :=
  extension = [] ∨ ∃ behind, extension = '.' :: behind ∧ '.' ∉ behind

theorem not_mem_of_unmarked {mark : Char} {text : List Char}
    (unmarked : ∀ c ∈ text, (c == mark) = false) : mark ∉ text :=
  fun member => Bool.noConfusion ((unmarked mark member).symm.trans (beq_self_eq_true mark))

theorem unmarked_of_not_mem {mark : Char} {text : List Char} (absent : mark ∉ text) :
    ∀ c ∈ text, (c == mark) = false := by
  intro c member
  rw [beq_eq_false_iff_ne]
  rintro rfl
  exact absent member

/-- A name is split into a stem and an extension; without an extension there is no dot. -/
theorem splitExtension_spec (name : List Char) :
    IsExtension (splitExtension name).2 ∧
      ((splitExtension name).2 = [] → '.' ∉ (splitExtension name).1) := by
  have spec := splitLast?_spec (· == '.') name
  unfold splitExtension
  split at spec
  · rename_i split
    rw [split]
    exact ⟨.inl rfl, fun _ => not_mem_of_unmarked spec⟩
  · rename_i before behind split
    rw [split]
    exact ⟨.inr ⟨behind, rfl, not_mem_of_unmarked spec.2⟩, nofun⟩

/-- A stem and an extension are split where they were joined. -/
theorem splitExtension_append (stem : List Char) {extension : List Char}
    (isExtension : IsExtension extension) (dotless : extension = [] → '.' ∉ stem) :
    splitExtension (stem ++ extension) = (stem, extension) := by
  rcases isExtension with rfl | ⟨behind, rfl, absent⟩
  · rw [List.append_nil, splitExtension, splitLast?_eq_none _ (unmarked_of_not_mem (dotless rfl))]
  · rw [splitExtension, splitLast?_append (· == '.') stem behind rfl
      (unmarked_of_not_mem absent)]

/-! ### The characters of a key -/

/-- Whether keys are written with a character whatever the name and the id: with digits and with the
marks that stand around them. -/
def isOwn (c : Char) : Bool :=
  c.isDigit || c == ' ' || c == '(' || c == ')' || c == '-' || c == '_'

section Characters

variable {c : Char} (other : isOwn c = false)

include other

theorem not_mem_padded (width value : Nat) : c ∉ Instant.padded width value := by
  simp only [isOwn, Bool.or_eq_false_iff] at other
  intro member
  rw [Instant.isDigit_of_mem_padded member] at other
  exact Bool.noConfusion other.1.1.1.1.1

theorem not_mem_stamp (time : Instant) : c ∉ stamp time := by
  have padded := not_mem_padded other
  simp only [isOwn, Bool.or_eq_false_iff, beq_eq_false_iff_ne] at other
  simp only [stamp, List.mem_append, List.mem_cons, padded, or_false, false_or]
  exact other.1.2

theorem mem_numberedStem_iff {stem : List Char} (number : Nat) :
    c ∈ numberedStem stem number ↔ c ∈ stem := by
  simp only [isOwn, Bool.or_eq_false_iff, beq_eq_false_iff_ne] at other
  obtain ⟨⟨⟨⟨⟨notDigit, notBlank⟩, notOpen⟩, notClose⟩, -⟩, -⟩ := other
  have digits : c ∉ Nat.toDigits 10 number := by
    intro member
    rw [isDigit_of_mem_toDigits member] at notDigit
    cases notDigit
  unfold numberedStem
  split
  · exact Iff.rfl
  · simp only [List.mem_append, List.mem_cons, List.not_mem_nil, notBlank, notOpen, notClose,
      digits, or_false]

/-- All other characters of a key come from the name or the id. -/
theorem mem_format_iff {stem extension : List Char} {id : String} (time : Instant) :
    c ∈ (format stem extension id time).toList ↔ c ∈ stem ++ extension ∨ c ∈ id.toList := by
  have stamp := not_mem_stamp other time
  simp only [isOwn, Bool.or_eq_false_iff, beq_eq_false_iff_ne] at other
  obtain ⟨⟨-, notHyphen⟩, notUnderscore⟩ := other
  simp only [format, String.toList_ofList, List.mem_append, List.mem_cons, stamp, notHyphen,
    notUnderscore, false_or, or_false]
  exact or_right_comm

end Characters

/-- The last dot of a key is that of its extension. -/
theorem splitExtension_format {stem extension : List Char} {id : String} (time : Instant)
    (isExtension : IsExtension extension) (dotless : extension = [] → '.' ∉ stem)
    (idDotless : '.' ∉ id.toList) :
    splitExtension (format stem extension id time).toList =
      (stem ++ '-' :: stamp time ++ '_' :: id.toList, extension) := by
  rw [format, String.toList_ofList, splitExtension_append _ isExtension]
  intro empty
  have stamp : '.' ∉ stamp time := not_mem_stamp rfl time
  simp only [List.mem_append, List.mem_cons, stamp, idDotless, dotless empty]
  decide

/-! ### Keys of different records -/

/-- Whether a key holds an id: its stem ends with an underscore and the id. -/
def Carries (id key : String) : Prop :=
  ∃ before, (splitExtension key.toList).1 = before ++ '_' :: id.toList

/-- A key holds one id only, among ids of one length. -/
theorem eq_of_carries {id id' key : String} (carries : Carries id key) (carries' : Carries id' key)
    (sameLength : id.toList.length = id'.toList.length) : id = id' := by
  obtain ⟨before, stem⟩ := carries
  obtain ⟨before', stem'⟩ := carries'
  have same := (List.append_inj' (stem.symm.trans stem')
    (congrArg (· + 1) sameLength)).2
  exact String.toList_inj.mp (List.cons.inj same).2

/-! ### Keys of one record -/

/-- The numbers of one family of keys give different keys. -/
theorem numberedStem_injective (stem : List Char) {number number' : Nat} (positive : 1 ≤ number)
    (positive' : 1 ≤ number') (same : numberedStem stem number = numberedStem stem number') :
    number = number' := by
  have longer (digits : List Char) : stem ≠ stem ++ ' ' :: '(' :: digits ++ [')'] := by
    intro equal
    have lengths := congrArg List.length equal
    simp only [List.length_append, List.length_cons] at lengths
    omega
  unfold numberedStem at same
  split at same <;> split at same
  · omega
  · exact absurd same (longer _)
  · exact absurd same.symm (longer _)
  · have digits := List.append_cancel_right same
    rw [List.append_cancel_left_eq] at digits
    rw [← Nat.ofDigitChars_ten_toDigits (n := number),
      ← Nat.ofDigitChars_ten_toDigits (n := number'), (List.cons.inj (List.cons.inj digits).2).2]

/-- The key of a file whose stem has a number. -/
def numbered (stem extension : List Char) (id : String) (time : Instant) (number : Nat) : String :=
  format (numberedStem stem number) extension id time

/-- Different numbers make different keys. -/
theorem numbered_injective (stem extension : List Char) (id : String) (time : Instant)
    {number number' : Nat} (positive : 1 ≤ number) (positive' : 1 ≤ number')
    (same : numbered stem extension id time number = numbered stem extension id time number') :
    number = number' := by
  have chars := String.ofList_inj.mp same
  simp only [List.append_assoc, List.cons_append, List.append_cancel_right_eq] at chars
  exact numberedStem_injective stem positive positive' chars

/-- Whether a number is the first one, from some number on, whose key is free. -/
structure IsFirstFree (key : Nat → String) (taken : List String) (first number : Nat) : Prop where
  atLeast : first ≤ number
  free : key number ∉ taken
  earlier : ∀ tried, first ≤ tried → tried < number → key tried ∈ taken

/-- The key that is found has a number that was tried, the keys of all earlier ones are taken, and
if it is taken itself no number is left to try. -/
theorem firstFree_spec (key : Nat → String) (taken : List String) (left number : Nat) :
    ∃ chosen, number ≤ chosen ∧ chosen ≤ number + left ∧
      firstFree key taken left number = key chosen ∧
      (∀ tried, number ≤ tried → tried < chosen → key tried ∈ taken) ∧
      (key chosen ∈ taken → chosen = number + left) := by
  induction left generalizing number with
  | zero =>
    exact ⟨number, Nat.le_refl _, Nat.le_refl _, rfl, fun tried low high => by omega, fun _ => rfl⟩
  | succ left inductionHypothesis =>
    unfold firstFree
    split
    · rename_i contained
      obtain ⟨chosen, low, high, equal, earlier, last⟩ := inductionHypothesis (number + 1)
      refine ⟨chosen, by omega, by omega, equal, fun tried atLeast below => ?_, fun member => ?_⟩
      · rcases Nat.eq_or_lt_of_le atLeast with rfl | later
        · exact List.contains_iff_mem.mp contained
        · exact earlier tried later below
      · rw [last member]
        omega
    · rename_i notContained
      exact ⟨number, Nat.le_refl _, by omega, rfl, fun tried low high => by omega,
        fun member => absurd (List.contains_iff_mem.mpr member) notContained⟩

/-- In a family of different keys one is free, and the first one that is free is found: there are
more numbers to try than keys taken. -/
theorem exists_isFirstFree (key : Nat → String) (taken : List String)
    (injective : ∀ number number', 1 ≤ number → 1 ≤ number' → key number = key number' →
      number = number') :
    ∃ number, IsFirstFree key taken 1 number ∧ number ≤ taken.length + 1 ∧
      firstFree key taken taken.length 1 = key number := by
  obtain ⟨chosen, low, high, equal, earlier, last⟩ := firstFree_spec key taken taken.length 1
  refine ⟨chosen, ⟨low, fun member => ?_, earlier⟩, by omega, equal⟩
  have all : ∀ tried ∈ List.range' 1 (taken.length + 1), key tried ∈ taken := by
    intro tried inRange
    obtain ⟨atLeast, below⟩ := List.mem_range'_1.mp inRange
    have reached := last member
    rcases Nat.eq_or_lt_of_le (by omega : tried ≤ chosen) with rfl | before
    · exact member
    · exact earlier tried atLeast before
  have distinct : ((List.range' 1 (taken.length + 1)).map key).Nodup := by
    refine List.Nodup.map_on (fun number inRange number' inRange' same => ?_) List.nodup_range'
    exact injective number number' (List.mem_range'_1.mp inRange).1
      (List.mem_range'_1.mp inRange').1 same
  have bound := (List.subperm_of_subset distinct fun k inMap => by
    obtain ⟨tried, inRange, rfl⟩ := List.mem_map.mp inMap
    exact all tried inRange : List.Subperm _ taken).length_le
  rw [List.length_map, List.length_range'] at bound
  omega

theorem make_eq (name id : String) (time : Instant) (taken : List String) :
    make name id time taken =
      firstFree (numbered (splitExtension (baseName name.toList)).1
        (splitExtension (baseName name.toList)).2 id time) taken taken.length 1 := rfl

/-- The key of a file is the first free one of its family. -/
theorem exists_make_eq (name id : String) (time : Instant) (taken : List String) :
    ∃ number, IsFirstFree (numbered (splitExtension (baseName name.toList)).1
        (splitExtension (baseName name.toList)).2 id time) taken 1 number ∧
      number ≤ taken.length + 1 ∧
      make name id time taken = numbered (splitExtension (baseName name.toList)).1
        (splitExtension (baseName name.toList)).2 id time number :=
  exists_isFirstFree _ taken fun _ _ => numbered_injective _ _ id time

/-- The key of a new file is none of the keys that are taken. -/
theorem make_not_mem (name id : String) (time : Instant) (taken : List String) :
    make name id time taken ∉ taken := by
  obtain ⟨number, isFirst, -, equal⟩ := exists_make_eq name id time taken
  rw [equal]
  exact isFirst.free

/-- The key of a new file holds the id of its record. -/
theorem carries_make (name id : String) (time : Instant) (taken : List String)
    (dotless : '.' ∉ id.toList) : Carries id (make name id time taken) := by
  obtain ⟨number, -, -, equal⟩ := exists_make_eq name id time taken
  obtain ⟨isExtension, absent⟩ := splitExtension_spec (baseName name.toList)
  have split := splitExtension_format time isExtension
    (fun empty => mt (mem_numberedStem_iff rfl number).mp (absent empty)) dotless
  rw [equal]
  exact ⟨_, congrArg Prod.fst split⟩

/-- Every key has the hyphen before its time. -/
theorem hyphen_mem_make (name id : String) (time : Instant) (taken : List String) :
    '-' ∈ (make name id time taken).toList := by
  obtain ⟨number, -, -, equal⟩ := exists_make_eq name id time taken
  rw [equal, numbered, format, String.toList_ofList, List.append_assoc, List.append_assoc]
  exact List.mem_append_right _ List.mem_cons_self

theorem make_ne_empty (name id : String) (time : Instant) (taken : List String) :
    make name id time taken ≠ "" := by
  intro empty
  have hyphen := hyphen_mem_make name id time taken
  rw [empty] at hyphen
  cases hyphen

theorem make_not_step (name id : String) (time : Instant) (taken : List String) :
    make name id time taken ≠ "." ∧ make name id time taken ≠ ".." := by
  have hyphen := hyphen_mem_make name id time taken
  constructor
  all_goals
    intro step
    rw [step] at hyphen
    exact absurd hyphen (by decide)

end BlobKey

/-! ### The texts of random ids -/

namespace Uuid

theorem digitChar_injective :
    ∀ d < 16, ∀ e < 16, Nat.digitChar d = Nat.digitChar e → d = e := by decide

theorem hexByte_injective {byte byte' : UInt8} (same : hexByte byte = hexByte byte') :
    byte = byte' := by
  have bound := byte.toNat_lt
  have bound' := byte'.toNat_lt
  simp only [hexByte, List.cons.injEq, and_true] at same
  have high := digitChar_injective _ (by omega) _ (by omega) same.1
  have low := digitChar_injective _ (by omega) _ (by omega) same.2
  exact UInt8.toNat_inj.mp (by omega)

/-- A byte of an id as its text shows it, behind a hyphen if it begins a group. -/
def shownByte (index : Nat) (byte : UInt8) : List Char :=
  (if index = 4 ∨ index = 6 ∨ index = 8 ∨ index = 10 then ['-'] else []) ++ hexByte byte

theorem toList_text (id : Uuid) : id.text.toList = (id.bytes.mapIdx shownByte).flatten :=
  String.toList_ofList

theorem shownByte_injective (index : Nat) {byte byte' : UInt8}
    (same : shownByte index byte = shownByte index byte') : byte = byte' :=
  hexByte_injective (List.append_cancel_left same)

theorem length_shownByte (index : Nat) (byte byte' : UInt8) :
    (shownByte index byte).length = (shownByte index byte').length := by
  rw [shownByte, shownByte, List.length_append, List.length_append]
  rfl

/-- Texts of as many bytes have one length, and show their bytes. -/
theorem flatten_shown (first : Nat) {bytes bytes' : Bytes} (count : bytes.length = bytes'.length) :
    (bytes.mapIdx fun index => shownByte (first + index)).flatten.length =
        (bytes'.mapIdx fun index => shownByte (first + index)).flatten.length ∧
      ((bytes.mapIdx fun index => shownByte (first + index)).flatten =
        (bytes'.mapIdx fun index => shownByte (first + index)).flatten → bytes = bytes') := by
  induction bytes generalizing bytes' first with
  | nil =>
    cases bytes' with
    | nil => exact ⟨rfl, fun _ => rfl⟩
    | cons byte' rest' => cases count
  | cons byte rest inductionHypothesis =>
    cases bytes' with
    | nil => cases count
    | cons byte' rest' =>
      obtain ⟨lengths, shown⟩ := inductionHypothesis (first + 1) (Nat.succ_inj.mp count)
      simp only [List.mapIdx_cons, List.flatten_cons, List.length_append, Nat.add_zero,
        Nat.add_assoc, Nat.add_comm 1] at lengths shown ⊢
      refine ⟨by rw [lengths, length_shownByte first byte byte'], fun same => ?_⟩
      obtain ⟨head, tail⟩ := List.append_inj same (length_shownByte first byte byte')
      rw [shownByte_injective first head, shown tail]

theorem length_text_eq {id id' : Uuid} (count : id.bytes.length = id'.bytes.length) :
    id.text.toList.length = id'.text.toList.length := by
  have lengths := (flatten_shown 0 count).1
  simp only [Nat.zero_add] at lengths
  rwa [toList_text, toList_text]

/-- Different ids of as many bytes have different texts. -/
theorem text_injective {id id' : Uuid} (count : id.bytes.length = id'.bytes.length)
    (same : id.text = id'.text) : id = id' := by
  have shown := (flatten_shown 0 count).2
  simp only [Nat.zero_add] at shown
  have bytes := shown (by rw [← toList_text, ← toList_text, same])
  cases id
  cases id'
  exact congrArg Uuid.mk bytes

/-- The text of an id consists of hyphens and digits. -/
theorem mem_text {id : Uuid} {c : Char} (member : c ∈ id.text.toList) :
    c = '-' ∨ ∃ d < 16, Nat.digitChar d = c := by
  rw [toList_text, List.mem_flatten] at member
  obtain ⟨shown, inShown, inside⟩ := member
  obtain ⟨index, bound, rfl⟩ := List.mem_mapIdx.mp inShown
  have small := (id.bytes[index]).toNat_lt
  rw [shownByte, List.mem_append, hexByte, List.mem_cons, List.mem_singleton] at inside
  rcases inside with hyphen | rfl | rfl
  · split at hyphen
    · exact .inl (List.mem_singleton.mp hyphen)
    · cases hyphen
  · exact .inr ⟨_, by omega, rfl⟩
  · exact .inr ⟨_, by omega, rfl⟩

theorem not_mem_text (id : Uuid) {c : Char} (notHyphen : c ≠ '-')
    (notDigit : ∀ d < 16, Nat.digitChar d ≠ c) : c ∉ id.text.toList := by
  intro member
  obtain hyphen | ⟨d, small, digit⟩ := mem_text member
  · exact notHyphen hyphen
  · exact notDigit d small digit

theorem dot_not_mem_text (id : Uuid) : '.' ∉ id.text.toList :=
  not_mem_text id (by decide) (by decide)

theorem underscore_not_mem_text (id : Uuid) : '_' ∉ id.text.toList :=
  not_mem_text id (by decide) (by decide)

end Uuid

/-- Keys of records with different random ids are different, whatever the names of their files. -/
theorem BlobKey.eq_of_carries_text {id id' : Uuid} {key : String}
    (count : id.bytes.length = id'.bytes.length) (carries : Carries id.text key)
    (carries' : Carries id'.text key) : id = id' :=
  Uuid.text_injective count (eq_of_carries carries carries' (Uuid.length_text_eq count))

end ApplicationLedger
