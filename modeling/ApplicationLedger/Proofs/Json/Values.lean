/-
This file proves that JSON loses nothing of a value without floating point numbers: the reader takes
its compact text back to the value and stops behind it. The reader bounds its calls by the length of
the text, and the induction goes along the value with the length of what was written for each part.
-/

import ApplicationLedger.Json.Decoder
import ApplicationLedger.Proofs.Json.Numbers
import ApplicationLedger.Proofs.Json.Strings

namespace ApplicationLedger.Json

/-! ### Exact values -/

mutual

/-- Whether the value is plain and its numbers are whole ones of 64 bits. -/
def IsExact : Json → Prop
  | .number (.integer value) => IsWord value
  | .number (.real _) => False
  | .unreadable => False
  | .broken => False
  | .array items => AllExact items
  | .object members => AllMembersExact members
  | _ => True

/-- Whether all items are exact. -/
def AllExact : List Json → Prop
  | [] => True
  | item :: rest => IsExact item ∧ AllExact rest

/-- Whether the values of all members are exact. -/
def AllMembersExact : List (String × Json) → Prop
  | [] => True
  | (_, value) :: rest => IsExact value ∧ AllMembersExact rest

end

/-! ### Texts -/

theorem toList_compact_array (items : List Json) :
    (compact (.array items)).toList = '[' :: ((compactItems items).toList ++ [']']) := by
  simp [compact]

theorem toList_compact_object (members : List (String × Json)) :
    (compact (.object members)).toList = '{' :: ((compactMembers members).toList ++ ['}']) := by
  simp [compact]

theorem toList_compactItems_cons (item next : Json) (rest : List Json) :
    (compactItems (item :: next :: rest)).toList =
      (compact item).toList ++ ',' :: (compactItems (next :: rest)).toList := by
  simp [compactItems]

theorem toList_compactMembers_singleton (name : String) (value : Json) :
    (compactMembers [(name, value)]).toList =
      (stringText name).toList ++ ':' :: (compact value).toList := by
  simp [compactMembers]

theorem toList_compactMembers_cons (name : String) (value : Json) (next : String × Json)
    (rest : List (String × Json)) :
    (compactMembers ((name, value) :: next :: rest)).toList =
      (stringText name).toList ++ ':' :: ((compact value).toList ++
        ',' :: (compactMembers (next :: rest)).toList) := by
  simp [compactMembers]

theorem toString_begins (value : Int) :
    ∃ c behind, (toString value).toList = c :: behind ∧ (c = '-' ∨ c.isDigit = true) := by
  rw [toList_toString_int]
  split
  · exact ⟨'-', _, rfl, .inl rfl⟩
  · cases written : Nat.toDigits 10 value.natAbs with
    | nil => exact absurd written Nat.toDigits_ne_nil
    | cons c rest =>
      exact ⟨c, rest, rfl, .inr (isDigit_of_mem_toDigits (written ▸ List.mem_cons_self))⟩

/-- What begins a number is neither a blank nor the beginning or end of any other value. -/
theorem numberStart_cases {c : Char} (start : c = '-' ∨ c.isDigit = true) :
    isBlank c = false ∧ c ∉ ['n', 't', 'f', '"', '[', ']', '{'] := by
  constructor
  · rw [Bool.eq_false_iff]
    intro blank
    simp only [isBlank, Bool.or_eq_true, beq_iff_eq] at blank
    rcases blank with ((rfl | rfl) | rfl) | rfl <;> exact absurd start (by decide)
  · intro other
    simp only [List.mem_cons, List.not_mem_nil, or_false] at other
    rcases other with rfl | rfl | rfl | rfl | rfl | rfl | rfl <;> exact absurd start (by decide)

/-- Neither a blank nor the end of an array begins a value. -/
theorem compact_begins {value : Json} (exact : value.IsExact) :
    ∃ c behind, (compact value).toList = c :: behind ∧ isBlank c = false ∧ c ≠ ']' := by
  cases value with
  | null => exact ⟨'n', _, rfl, rfl, by decide⟩
  | boolean value => cases value <;> exact ⟨_, _, rfl, rfl, by decide⟩
  | number value =>
    cases value with
    | real value => exact exact.elim
    | integer value =>
      obtain ⟨c, behind, begins, start⟩ := toString_begins value
      obtain ⟨mark, other⟩ := numberStart_cases start
      refine ⟨c, behind, begins, mark, ?_⟩
      rintro rfl
      exact other (by decide)
  | string value =>
    rw [compact, toList_stringText]
    exact ⟨'"', _, rfl, rfl, by decide⟩
  | array items =>
    rw [toList_compact_array]
    exact ⟨'[', _, rfl, rfl, by decide⟩
  | object members =>
    rw [toList_compact_object]
    exact ⟨'{', _, rfl, rfl, by decide⟩
  | unreadable => exact exact.elim
  | broken => exact exact.elim

theorem compactItems_begins {item : Json} (exact : item.IsExact) (rest : List Json) :
    ∃ c behind, (compactItems (item :: rest)).toList = c :: behind ∧ isBlank c = false ∧
      c ≠ ']' := by
  obtain ⟨c, behind, begins, shape⟩ := compact_begins exact
  cases rest with
  | nil => exact ⟨c, behind, begins, shape⟩
  | cons next rest =>
    rw [toList_compactItems_cons, begins]
    exact ⟨c, _, rfl, shape⟩

theorem compactMembers_begins (member : String × Json) (rest : List (String × Json)) :
    ∃ behind, (compactMembers (member :: rest)).toList = '"' :: behind := by
  obtain ⟨name, value⟩ := member
  cases rest with
  | nil =>
    rw [toList_compactMembers_singleton, toList_stringText]
    exact ⟨_, rfl⟩
  | cons next rest =>
    rw [toList_compactMembers_cons, toList_stringText]
    exact ⟨_, rfl⟩

/-! ### Reading back -/

/-- What begins like a number is read as one. -/
theorem scanValue_number (fuel : Nat) {c : Char} (start : c = '-' ∨ c.isDigit = true)
    (rest : List Char) : scanValue (fuel + 1) (c :: rest) = scanNumber (c :: rest) := by
  obtain ⟨mark, other⟩ := numberStart_cases start
  rw [scanValue, skipBlanks_cons mark]
  split
  case h_7 => rfl
  all_goals
    rename_i begins
    cases begins
    exact absurd (by decide) other

theorem scanItems_next {fuel : Nat} {text rest : List Char} {item : Json}
    (read : scanValue fuel text = (item, some (',' :: rest))) :
    scanItems (fuel + 1) text = (item :: (scanItems fuel rest).1, (scanItems fuel rest).2) := by
  rw [scanItems, read]
  rfl

theorem scanItems_last {fuel : Nat} {text rest : List Char} {item : Json}
    (read : scanValue fuel text = (item, some (']' :: rest))) :
    scanItems (fuel + 1) text = ([item], some rest) := by
  rw [scanItems, read]
  rfl

theorem scanMembers_next {fuel : Nat} {text rest : List Char} {value : Json} (name : String)
    (read : scanValue fuel text = (value, some (',' :: rest))) :
    scanMembers (fuel + 1) ((stringText name).toList ++ ':' :: text) =
      ((name, value) :: (scanMembers fuel rest).1, (scanMembers fuel rest).2) := by
  rw [toList_stringText, List.cons_append, List.append_assoc, List.singleton_append, scanMembers,
    skipBlanks_cons rfl]
  simp only [scanString_stringText, skipBlanks_cons (c := ':') rfl, read]
  rfl

theorem scanMembers_last {fuel : Nat} {text rest : List Char} {value : Json} (name : String)
    (read : scanValue fuel text = (value, some ('}' :: rest))) :
    scanMembers (fuel + 1) ((stringText name).toList ++ ':' :: text) =
      ([(name, value)], some rest) := by
  rw [toList_stringText, List.cons_append, List.append_assoc, List.singleton_append, scanMembers,
    skipBlanks_cons rfl]
  simp only [scanString_stringText, skipBlanks_cons (c := ':') rfl, read]
  rfl

/-- What follows a value inside an array or object does not go on with a number. -/
theorem EndsNumber.of_mark {c : Char} (mark : c ∈ [',', ']', '}']) (rest : List Char) :
    EndsNumber (c :: rest) := by
  rintro _ ⟨⟩
  simp only [List.mem_cons, List.not_mem_nil, or_false] at mark
  rcases mark with rfl | rfl | rfl <;> decide

/-- Whether values are read back by so many calls, whatever follows but the rest of a number. -/
def ReadsValues (fuel : Nat) : Prop :=
  ∀ (value : Json) (rest : List Char), value.IsExact →
    2 * (compact value).toList.length ≤ fuel → EndsNumber rest →
      scanValue fuel ((compact value).toList ++ rest) = (value, some rest)

/-- Whether the items of an array are read back by so many calls. -/
def ReadsItems (fuel : Nat) : Prop :=
  ∀ (item : Json) (others : List Json) (rest : List Char), AllExact (item :: others) →
    2 * (compactItems (item :: others)).toList.length < fuel →
      scanItems fuel ((compactItems (item :: others)).toList ++ ']' :: rest) =
        (item :: others, some rest)

/-- Whether the members of an object are read back by so many calls. -/
def ReadsMembers (fuel : Nat) : Prop :=
  ∀ (member : String × Json) (others : List (String × Json)) (rest : List Char),
    AllMembersExact (member :: others) →
      2 * (compactMembers (member :: others)).toList.length < fuel →
        scanMembers fuel ((compactMembers (member :: others)).toList ++ '}' :: rest) =
          (member :: others, some rest)

section Step

variable {fuel : Nat}

theorem scanValue_array (readsItems : ReadsItems fuel) {items : List Json}
    (exact : AllExact items) (enough : 2 * (compact (.array items)).toList.length ≤ fuel + 1)
    (rest : List Char) :
    scanValue (fuel + 1) ((compact (.array items)).toList ++ rest) =
      (.array items, some rest) := by
  rw [toList_compact_array] at enough ⊢
  rw [List.cons_append, List.append_assoc, scanValue, skipBlanks_cons rfl]
  cases items with
  | nil => rfl
  | cons item others =>
    have scanned := readsItems item others rest exact (by simp at enough; omega)
    obtain ⟨c, behind, begins, mark, other⟩ := compactItems_begins exact.1 others
    rw [begins, List.cons_append] at scanned
    simp only [begins, List.cons_append, List.nil_append, skipBlanks_cons mark]
    split
    · rename_i closed
      cases closed
      exact absurd rfl other
    · exact congrArg (fun scan : List Json × Rest => (Json.array scan.1, scan.2)) scanned

theorem scanValue_object (readsMembers : ReadsMembers fuel) {members : List (String × Json)}
    (exact : AllMembersExact members)
    (enough : 2 * (compact (.object members)).toList.length ≤ fuel + 1) (rest : List Char) :
    scanValue (fuel + 1) ((compact (.object members)).toList ++ rest) =
      (.object members, some rest) := by
  rw [toList_compact_object] at enough ⊢
  rw [List.cons_append, List.append_assoc, scanValue, skipBlanks_cons rfl]
  cases members with
  | nil => rfl
  | cons member others =>
    have scanned := readsMembers member others rest exact (by simp at enough; omega)
    obtain ⟨behind, begins⟩ := compactMembers_begins member others
    rw [begins, List.cons_append] at scanned
    simp only [begins, List.cons_append, List.nil_append, skipBlanks_cons (c := '"') rfl]
    exact congrArg (fun scan : List (String × Json) × Rest => (Json.object scan.1, scan.2)) scanned

theorem readsValues_succ (readsItems : ReadsItems fuel) (readsMembers : ReadsMembers fuel) :
    ReadsValues (fuel + 1) := by
  intro value rest exact enough ends
  cases value with
  | null => rfl
  | boolean value => cases value <;> rfl
  | number value =>
    cases value with
    | real value => exact exact.elim
    | integer value =>
      obtain ⟨c, behind, begins, start⟩ := toString_begins value
      have scanned := scanNumber_toString exact ends
      show scanValue _ ((toString value).toList ++ rest) = _
      rw [begins, List.cons_append] at scanned ⊢
      rw [scanValue_number fuel start]
      exact scanned
  | string value =>
    rw [compact, toList_stringText, List.cons_append, List.append_assoc, List.singleton_append,
      scanValue, skipBlanks_cons rfl]
    simp only [scanString_stringText]
  | array items => exact scanValue_array readsItems exact enough rest
  | object members => exact scanValue_object readsMembers exact enough rest
  | unreadable => exact exact.elim
  | broken => exact exact.elim

theorem readsItems_succ (readsValues : ReadsValues fuel) (readsItems : ReadsItems fuel) :
    ReadsItems (fuel + 1) := by
  intro item others rest exact enough
  cases others with
  | nil =>
    exact scanItems_last (readsValues item _ exact.1 (Nat.le_of_lt_succ enough)
      (.of_mark (by decide) rest))
  | cons next others =>
    rw [toList_compactItems_cons, List.length_append, List.length_cons] at enough
    have first := readsValues item (',' :: ((compactItems (next :: others)).toList ++ ']' :: rest))
      exact.1 (by omega) (.of_mark (by decide) _)
    rw [toList_compactItems_cons, List.append_assoc, List.cons_append, scanItems_next first,
      readsItems next others rest exact.2 (by omega)]

theorem readsMembers_succ (readsValues : ReadsValues fuel) (readsMembers : ReadsMembers fuel) :
    ReadsMembers (fuel + 1) := by
  intro member others rest exact enough
  obtain ⟨name, value⟩ := member
  cases others with
  | nil =>
    rw [toList_compactMembers_singleton, List.length_append, List.length_cons] at enough
    rw [toList_compactMembers_singleton, List.append_assoc, List.cons_append]
    exact scanMembers_last name (readsValues value _ exact.1 (by omega)
      (.of_mark (by decide) rest))
  | cons next others =>
    rw [toList_compactMembers_cons] at enough ⊢
    simp only [List.length_append, List.length_cons] at enough
    have first := readsValues value
      (',' :: ((compactMembers (next :: others)).toList ++ '}' :: rest)) exact.1 (by omega)
      (.of_mark (by decide) _)
    simp only [List.append_assoc, List.cons_append]
    rw [scanMembers_next name first, readsMembers next others rest exact.2 (by omega)]

end Step

/-- With calls in proportion to the length of its text, everything is read back. -/
theorem reads_back (fuel : Nat) : ReadsValues fuel ∧ ReadsItems fuel ∧ ReadsMembers fuel := by
  induction fuel with
  | zero =>
    refine ⟨?_, fun _ _ _ _ enough => absurd enough (Nat.not_lt_zero _),
      fun _ _ _ _ enough => absurd enough (Nat.not_lt_zero _)⟩
    intro value rest exact enough
    obtain ⟨c, behind, begins, _⟩ := compact_begins exact
    rw [begins] at enough
    exact absurd enough (by simp)
  | succ fuel inductionHypothesis =>
    obtain ⟨readsValues, readsItems, readsMembers⟩ := inductionHypothesis
    exact ⟨readsValues_succ readsItems readsMembers, readsItems_succ readsValues readsItems,
      readsMembers_succ readsValues readsMembers⟩

/-- The compact text of a value is nothing but the value. -/
theorem read_compact {value : Json} (exact : value.IsExact) :
    read (compact value) = ⟨value, true⟩ := by
  have scanned := (reads_back (2 * (compact value).length + 2)).1 value [] exact
    (by rw [String.length_toList]; omega) nofun
  rw [List.append_nil] at scanned
  rw [read, scanned]
  rfl

/-! ### Lists -/

theorem allExact_map {α : Type} {encode : α → Json} {values : List α}
    (each : ∀ value ∈ values, (encode value).IsExact) : AllExact (values.map encode) := by
  induction values with
  | nil => trivial
  | cons value rest inductionHypothesis =>
    exact ⟨each value List.mem_cons_self,
      inductionHypothesis fun other member => each other (List.mem_cons_of_mem value member)⟩

/-- Items are decoded if each of them is. -/
theorem items_map {α : Type} {decode : Decoder α} {encode : α → Json} {medium : Medium}
    {values : List α} (each : ∀ value ∈ values, decode medium (encode value) = .ok value) :
    decode.items medium (values.map encode) = .ok values := by
  induction values with
  | nil => rfl
  | cons value rest inductionHypothesis =>
    rw [List.map_cons, Decoder.items, each value List.mem_cons_self,
      inductionHypothesis fun other member => each other (List.mem_cons_of_mem value member)]
    rfl

/-- A list of texts is decoded from its JSON text. -/
theorem ofText_strings (texts : List String) :
    Decoder.ofText (Decoder.list Decoder.text) (compact (.array (texts.map .string))) =
      .ok texts := by
  have exact : (array (texts.map .string)).IsExact := allExact_map fun _ _ => trivial
  rw [Decoder.ofText, read_compact exact]
  change ((Decoder.items Decoder.text _ (texts.map .string)).bind fun result => _) = _
  rw [items_map fun _ _ => rfl]
  rfl

end ApplicationLedger.Json
