/-
This file says what the standard form of base 64 is, bit by bit, and proves that reading takes
exactly the texts in that form. The symbols of a text hold six bits each: the bits of the bytes, one
after the other, and zeros up to the end of the last symbol. Behind them the last group of four is
filled. Writing keeps the bits, since each symbol takes up where the one before it stopped, and no
other text keeps them, since the number of bytes tells the number of symbols.
-/

import Mathlib.Algebra.Group.Nat.Defs
import ApplicationLedger.Bytes.Base64

namespace ApplicationLedger.Base64

/-! ### Bits -/

/-- The lowest bits of a number, so many of them, the highest one first. -/
def bits : Nat → Nat → List Bool
  | 0, _ => []
  | count + 1, value => value.testBit count :: bits count value

theorem length_bits (count value : Nat) : (bits count value).length = count := by
  induction count with
  | zero => rfl
  | succ count inductionHypothesis => rw [bits, List.length_cons, inductionHypothesis]

theorem bits_eq_iff {count value value' : Nat} :
    bits count value = bits count value' ↔
      ∀ place < count, value.testBit place = value'.testBit place := by
  induction count with
  | zero => exact ⟨fun _ _ below => absurd below (Nat.not_lt_zero _), fun _ => rfl⟩
  | succ count inductionHypothesis =>
    rw [bits, bits, List.cons.injEq, inductionHypothesis, Nat.forall_lt_succ_right]
    exact and_comm

/-- A number that needs no more bits is told by them. -/
theorem bits_inj {count value value' : Nat} (bound : value < 2 ^ count)
    (bound' : value' < 2 ^ count) (same : bits count value = bits count value') :
    value = value' := by
  refine Nat.eq_of_testBit_eq fun place => ?_
  by_cases below : place < count
  · exact bits_eq_iff.mp same place below
  · have power : 2 ^ count ≤ 2 ^ place :=
      Nat.pow_le_pow_right Nat.two_pos (Nat.le_of_not_lt below)
    rw [Nat.testBit_lt_two_pow (Nat.lt_of_lt_of_le bound power),
      Nat.testBit_lt_two_pow (Nat.lt_of_lt_of_le bound' power)]

/-- The bits of a number that is put together from two parts are those of the parts. -/
theorem bits_append (upper : Nat) {lower count : Nat} (bound : lower < 2 ^ count) (more : Nat) :
    bits (more + count) (2 ^ count * upper + lower) = bits more upper ++ bits count lower := by
  induction more with
  | zero =>
    rw [Nat.zero_add]
    refine bits_eq_iff.mpr fun place below => ?_
    rw [Nat.testBit_two_pow_mul_add upper bound, if_pos below]
  | succ more inductionHypothesis =>
    rw [Nat.succ_add, bits, bits, inductionHypothesis, Nat.testBit_two_pow_mul_add upper bound,
      if_neg (by omega), Nat.add_sub_cancel, List.cons_append]

theorem bits_split (value more : Nat) {count power : Nat} (isPower : 2 ^ count = power) :
    bits (more + count) value = bits more (value / power) ++ bits count (value % power) := by
  rw [← isPower, ← bits_append (value / 2 ^ count) (Nat.mod_lt value (Nat.two_pow_pos count)),
    Nat.div_add_mod]

/-! ### The form -/

/-- The symbols of the standard alphabet. The place of a symbol is the number that its bits make. -/
def alphabet : List Char :=
  "ABCDEFGHIJKLMNOPQRSTUVWXYZabcdefghijklmnopqrstuvwxyz0123456789+/".toList

/-- The six bits that a symbol holds. -/
def symbolBits (c : Char) : List Bool := bits 6 (alphabet.idxOf c)

/-- The bits of some bytes. -/
def byteBits (bytes : Bytes) : List Bool := bytes.flatMap fun byte => bits 8 byte.toNat

/-- Whether a text is the standard form of some bytes: its symbols hold the bits of the bytes and
then zeros, and `=` stands behind them up to a whole group of four, twice at most. -/
def IsStandardForm (bytes : Bytes) (text : List Char) : Prop :=
  ∃ held fill, text = held ++ List.replicate fill '=' ∧ (∀ c ∈ held, c ∈ alphabet) ∧
    (held.length + fill) % 4 = 0 ∧ fill ≤ 2 ∧
      held.flatMap symbolBits = byteBits bytes ++ List.replicate (2 * fill) false

/-! ### Symbols -/

theorem symbol_eq {value : Nat} (bound : value < 64) :
    alphabet[value]? = some (symbol standard.last value) ∧
      alphabet.idxOf (symbol standard.last value) = value ∧
        bits? (symbol standard.last value) = some value :=
  (by decide +kernel : ∀ value < 64, alphabet[value]? = some (symbol standard.last value) ∧
    alphabet.idxOf (symbol standard.last value) = value ∧
      bits? (symbol standard.last value) = some value) value bound

theorem mem_alphabet_symbol {value : Nat} (bound : value < 64) :
    symbol standard.last value ∈ alphabet := List.mem_of_getElem? (symbol_eq bound).1

/-- Every symbol of the alphabet is the one that is written for some bits. -/
theorem exists_symbol_eq {c : Char} (known : c ∈ alphabet) :
    ∃ value < 64, symbol standard.last value = c := by
  obtain ⟨place, found⟩ := List.mem_iff_getElem?.mp known
  obtain ⟨below, _⟩ := List.getElem?_eq_some_iff.mp found
  have count : alphabet.length = 64 := by decide
  rw [count] at below
  exact ⟨place, below, Option.some.inj ((symbol_eq below).1.symm.trans found)⟩

theorem symbolBits_symbol {value : Nat} (bound : value < 64) :
    symbolBits (symbol standard.last value) = bits 6 value := by
  rw [symbolBits, (symbol_eq bound).2.1]

theorem bits?_symbol {value : Nat} (bound : value < 64) :
    bits? (symbol standard.last value) = some value := (symbol_eq bound).2.2

/-- Only the symbols of the alphabet are read, each as the bits that it is written for. -/
theorem eq_symbol_of_bits? {c : Char} {value : Nat} (read : bits? c = some value) :
    value < 64 ∧ c = symbol standard.last value := by
  have places : ∀ place < 128, ∀ value ∈ bits? (Char.ofNat place),
      value < 64 ∧ Char.ofNat place = symbol standard.last value := by decide +kernel
  have ascii : c.toNat < 128 := by
    unfold bits? at read
    simp only [Char.le_def, UInt32.le_iff_toNat_le] at read
    split at read
    · rename_i upper
      exact Nat.lt_of_le_of_lt upper.2 (by decide)
    split at read
    · rename_i lower
      exact Nat.lt_of_le_of_lt lower.2 (by decide)
    split at read
    · rename_i digit
      exact Nat.lt_of_le_of_lt digit.2 (by decide)
    split at read
    · rename_i plus
      subst plus
      decide
    split at read
    · rename_i slash
      subst slash
      decide
    · cases read
  rw [← Char.ofNat_toNat c] at read ⊢
  exact places c.toNat ascii value read

/-! ### Writing -/

section Groups

variable (a b c : UInt8)

/-- The first symbol of a group holds the upper bits of its first byte. -/
theorem symbolBits_first :
    symbolBits (symbol standard.last (a.toNat / 4)) = bits 6 (a.toNat / 4) :=
  symbolBits_symbol (by have := a.toNat_lt; omega)

/-- The second symbol holds the last two bits of the first byte, and four more. -/
theorem symbolBits_second {high : Nat} (bound : high < 16) :
    symbolBits (symbol standard.last (a.toNat % 4 * 16 + high)) =
      bits 2 (a.toNat % 4) ++ bits 4 high := by
  rw [symbolBits_symbol (by omega), Nat.mul_comm]
  exact @bits_append _ _ 4 bound 2

/-- The third symbol holds the last four bits of the second byte, and two more. -/
theorem symbolBits_third {high : Nat} (bound : high < 4) :
    symbolBits (symbol standard.last (b.toNat % 16 * 4 + high)) =
      bits 4 (b.toNat % 16) ++ bits 2 high := by
  rw [symbolBits_symbol (by omega), Nat.mul_comm]
  exact @bits_append _ _ 2 bound 4

/-- The fourth symbol holds the lower bits of the third byte. -/
theorem symbolBits_fourth :
    symbolBits (symbol standard.last (c.toNat % 64)) = bits 6 (c.toNat % 64) :=
  symbolBits_symbol (Nat.mod_lt _ (by decide))

end Groups

/-- Bytes are written in the standard form. The induction takes a group of three bytes at a time. -/
theorem isStandardForm_symbols (bytes : Bytes) : IsStandardForm bytes (symbols standard bytes) := by
  have two : 2 ^ 2 = 4 := rfl
  have four : 2 ^ 4 = 16 := rfl
  have six : 2 ^ 6 = 64 := rfl
  have high (byte : UInt8) : byte.toNat / 16 < 16 := by have := byte.toNat_lt; omega
  have top (byte : UInt8) : byte.toNat / 64 < 4 := by have := byte.toNat_lt; omega
  have upper (byte : UInt8) : byte.toNat / 4 < 64 := by have := byte.toNat_lt; omega
  induction bytes using symbols.induct with
  | case1 => exact ⟨[], 0, rfl, nofun, rfl, by decide, rfl⟩
  | case2 a =>
    have second := symbolBits_second a (by decide : 0 < 16)
    refine ⟨[symbol standard.last (a.toNat / 4), symbol standard.last (a.toNat % 4 * 16)], 2, rfl,
      ?_, by simp, Nat.le_refl 2, ?_⟩
    · simp only [List.forall_mem_cons]
      exact ⟨mem_alphabet_symbol (upper a), mem_alphabet_symbol (by omega), nofun⟩
    · rw [byteBits, List.flatMap_singleton, bits_split a.toNat 6 two]
      simp only [List.flatMap_cons, List.flatMap_nil, symbolBits_first]
      rw [← Nat.add_zero (a.toNat % 4 * 16), second, List.append_nil, List.append_assoc]
      rfl
  | case3 a b =>
    have third := symbolBits_third b (by decide : 0 < 4)
    refine ⟨[symbol standard.last (a.toNat / 4),
      symbol standard.last (a.toNat % 4 * 16 + b.toNat / 16),
      symbol standard.last (b.toNat % 16 * 4)], 1, rfl, ?_, by simp, by decide, ?_⟩
    · have := high b
      simp only [List.forall_mem_cons]
      exact ⟨mem_alphabet_symbol (upper a), mem_alphabet_symbol (by omega),
        mem_alphabet_symbol (by omega), nofun⟩
    · simp only [byteBits, List.flatMap_cons, List.flatMap_nil, bits_split a.toNat 6 two,
        bits_split b.toNat 4 four, symbolBits_first, symbolBits_second a (high b)]
      rw [← Nat.add_zero (b.toNat % 16 * 4), third]
      simp only [List.append_assoc, List.append_nil]
      rfl
  | case4 a b c rest inductionHypothesis =>
    obtain ⟨held, fill, written, known, whole, few, same⟩ := inductionHypothesis
    have := high b
    have := top c
    rw [symbols, written]
    refine ⟨_ :: _ :: _ :: _ :: held, fill, rfl, ?_, ?_, few, ?_⟩
    · simp only [List.forall_mem_cons]
      exact ⟨mem_alphabet_symbol (upper a), mem_alphabet_symbol (by omega),
        mem_alphabet_symbol (by omega), mem_alphabet_symbol (by omega), known⟩
    · simp only [List.length_cons]
      omega
    · rw [byteBits] at same
      simp only [byteBits, List.flatMap_cons, bits_split a.toNat 6 two,
        bits_split b.toNat 4 four, bits_split c.toNat 2 six, symbolBits_first,
        symbolBits_second a (high b), symbolBits_third b (top c), symbolBits_fourth, same]
      simp only [List.append_assoc]

theorem symbolBits_injOn {c c' : Char} (known : c ∈ alphabet) (known' : c' ∈ alphabet)
    (same : symbolBits c = symbolBits c') : c = c' := by
  obtain ⟨value, bound, rfl⟩ := exists_symbol_eq known
  obtain ⟨value', bound', rfl⟩ := exists_symbol_eq known'
  rw [symbolBits_symbol bound, symbolBits_symbol bound'] at same
  rw [@bits_inj 6 _ _ bound bound' same]

theorem length_flatMap_symbolBits (held : List Char) :
    (held.flatMap symbolBits).length = 6 * held.length := by
  induction held with
  | nil => rfl
  | cons c rest inductionHypothesis =>
    rw [List.flatMap_cons, List.length_append, inductionHypothesis, symbolBits, length_bits,
      List.length_cons]
    omega

theorem length_byteBits (bytes : Bytes) : (byteBits bytes).length = 8 * bytes.length := by
  induction bytes with
  | nil => rfl
  | cons byte rest inductionHypothesis =>
    rw [byteBits, List.flatMap_cons, List.length_append, ← byteBits, inductionHypothesis,
      length_bits, List.length_cons]
    omega

/-- Symbols are told by the bits that they hold. -/
theorem eq_of_flatMap_symbolBits {held held' : List Char} (known : ∀ c ∈ held, c ∈ alphabet)
    (known' : ∀ c ∈ held', c ∈ alphabet)
    (same : held.flatMap symbolBits = held'.flatMap symbolBits) : held = held' := by
  induction held generalizing held' with
  | nil =>
    have count := length_flatMap_symbolBits held'
    rw [← same] at count
    rw [List.flatMap_nil, List.length_nil] at count
    exact (List.eq_nil_of_length_eq_zero (by omega)).symm
  | cons c rest inductionHypothesis =>
    cases held' with
    | nil => simp [symbolBits, bits] at same
    | cons c' rest' =>
      obtain ⟨first, others⟩ := List.append_inj same ((length_bits ..).trans (length_bits ..).symm)
      rw [List.forall_mem_cons] at known known'
      rw [symbolBits_injOn known.1 known'.1 first, inductionHypothesis known.2 known'.2 others]

/-- Bytes have one standard form. -/
theorem IsStandardForm.unique {bytes : Bytes} {text text' : List Char}
    (isForm : IsStandardForm bytes text) (isForm' : IsStandardForm bytes text') :
    text = text' := by
  obtain ⟨held, fill, rfl, known, whole, few, same⟩ := isForm
  obtain ⟨held', fill', rfl, known', whole', few', same'⟩ := isForm'
  have count := congrArg List.length same
  have count' := congrArg List.length same'
  rw [length_flatMap_symbolBits, List.length_append, length_byteBits,
    List.length_replicate] at count count'
  obtain rfl : fill = fill' := by omega
  rw [eq_of_flatMap_symbolBits known known' (same.trans same'.symm)]

theorem isStandardForm_iff {bytes : Bytes} {text : List Char} :
    IsStandardForm bytes text ↔ text = symbols standard bytes :=
  ⟨fun isForm => isForm.unique (isStandardForm_symbols bytes),
    fun same => same ▸ isStandardForm_symbols bytes⟩

/-! ### Reading -/

theorem ofNat_eq (byte : UInt8) {value : Nat} (same : value = byte.toNat) :
    UInt8.ofNat value = byte := by
  rw [same, UInt8.ofNat_toNat]

theorem symbol_ne_fill {value : Nat} (bound : value < 64) : symbol standard.last value ≠ '=' :=
  fun same => absurd (same ▸ mem_alphabet_symbol bound) (by decide)

/-- Bytes are read back from their symbols. -/
theorem bytes?_symbols (bytes : Bytes) : bytes? (symbols standard bytes) = some bytes := by
  induction bytes using symbols.induct with
  | case1 => rfl
  | case2 a =>
    have bound := a.toNat_lt
    show bytes? [symbol standard.last (a.toNat / 4), symbol standard.last (a.toNat % 4 * 16), '=',
      '='] = _
    rw [bytes?, bits?_symbol (by omega), bits?_symbol (by omega)]
    show (if a.toNat % 4 * 16 % 16 = 0 then _ else _) = _
    rw [if_pos (by omega), ofNat_eq a (by omega)]
  | case3 a b =>
    have bound := a.toNat_lt
    have bound' := b.toNat_lt
    have filled : symbol standard.last (b.toNat % 16 * 4) ≠ '=' := symbol_ne_fill (by omega)
    show bytes? [symbol standard.last (a.toNat / 4),
      symbol standard.last (a.toNat % 4 * 16 + b.toNat / 16),
      symbol standard.last (b.toNat % 16 * 4), '='] = _
    rw [bytes?, bits?_symbol (by omega), bits?_symbol (by omega), bits?_symbol (by omega)]
    · show (if b.toNat % 16 * 4 % 4 = 0 then _ else _) = _
      rw [if_pos (by omega), ofNat_eq a (by omega), ofNat_eq b (by omega)]
    · exact filled
  | case4 a b c rest inductionHypothesis =>
    have bound := a.toNat_lt
    have bound' := b.toNat_lt
    have bound'' := c.toNat_lt
    have unfilled : symbol standard.last (c.toNat % 64) ≠ '=' := symbol_ne_fill (by omega)
    rw [symbols, bytes?, inductionHypothesis, bits?_symbol (by omega), bits?_symbol (by omega),
      bits?_symbol (by omega), bits?_symbol (by omega)]
    · show some (_ :: _ :: _ :: rest) = _
      rw [ofNat_eq a (by omega), ofNat_eq b (by omega),
        ofNat_eq c (by omega)]
    · exact fun _ same => absurd same unfilled
    · exact fun same => absurd same unfilled

theorem toNat_ofNat {value : Nat} (bound : value < 256) : (UInt8.ofNat value).toNat = value :=
  UInt8.toNat_ofNat_of_lt' bound

/-- Only what was written for bytes is read as them. -/
theorem eq_symbols_of_bytes? {text : List Char} {bytes : Bytes} (read : bytes? text = some bytes) :
    text = symbols standard bytes := by
  induction text using bytes?.induct generalizing bytes with
  | case1 =>
    cases read
    rfl
  | case2 a b =>
    rw [bytes?] at read
    simp only [bind, Option.bind_eq_some_iff] at read
    obtain ⟨first, isFirst, second, isSecond, read⟩ := read
    obtain ⟨_, rfl⟩ := eq_symbol_of_bits? isFirst
    obtain ⟨_, rfl⟩ := eq_symbol_of_bits? isSecond
    split at read
    · cases read
      rw [symbols, toNat_ofNat (by omega), show (first * 4 + second / 16) / 4 = first by omega,
        show (first * 4 + second / 16) % 4 * 16 = second by omega]
      rfl
    · cases read
  | case3 a b c filled =>
    rw [bytes?] at read
    · simp only [bind, Option.bind_eq_some_iff] at read
      obtain ⟨first, isFirst, second, isSecond, third, isThird, read⟩ := read
      obtain ⟨_, rfl⟩ := eq_symbol_of_bits? isFirst
      obtain ⟨_, rfl⟩ := eq_symbol_of_bits? isSecond
      obtain ⟨_, rfl⟩ := eq_symbol_of_bits? isThird
      split at read
      · cases read
        rw [symbols, toNat_ofNat (by omega), toNat_ofNat (by omega),
          show (first * 4 + second / 16) / 4 = first by omega,
          show (first * 4 + second / 16) % 4 * 16 + (second % 16 * 16 + third / 4) / 16 = second by
            omega,
          show (second % 16 * 16 + third / 4) % 16 * 4 = third by omega]
        rfl
      · cases read
    · exact filled
  | case4 a b c d rest twice once inductionHypothesis =>
    rw [bytes?] at read
    · simp only [bind, Option.bind_eq_some_iff] at read
      obtain ⟨first, isFirst, second, isSecond, third, isThird, fourth, isFourth, others, isRest,
        read⟩ := read
      obtain ⟨_, rfl⟩ := eq_symbol_of_bits? isFirst
      obtain ⟨_, rfl⟩ := eq_symbol_of_bits? isSecond
      obtain ⟨_, rfl⟩ := eq_symbol_of_bits? isThird
      obtain ⟨_, rfl⟩ := eq_symbol_of_bits? isFourth
      cases read
      rw [inductionHypothesis isRest, symbols, toNat_ofNat (by omega), toNat_ofNat (by omega),
        toNat_ofNat (by omega), show (first * 4 + second / 16) / 4 = first by omega,
        show (first * 4 + second / 16) % 4 * 16 + (second % 16 * 16 + third / 4) / 16 = second by
          omega,
        show (second % 16 * 16 + third / 4) % 16 * 4 + (third % 4 * 64 + fourth) / 64 = third by
          omega,
        show (third % 4 * 64 + fourth) % 64 = fourth by omega]
    · exact twice
    · exact once
  | case5 text empty two three four =>
    rw [bytes?] at read
    · cases read
    · exact empty
    · exact two
    · exact three
    · exact four

/-- A text is read as some bytes if and only if it is their standard form. -/
theorem decode?_eq_some_iff {text : String} {bytes : Bytes} :
    decode? text = some bytes ↔ IsStandardForm bytes text.toList := by
  rw [isStandardForm_iff]
  exact ⟨eq_symbols_of_bytes?, fun same => (congrArg bytes? same).trans (bytes?_symbols bytes)⟩

/-- The standard form of bytes is the text that they are written as. -/
theorem isStandardForm_iff_encode {text : String} {bytes : Bytes} :
    IsStandardForm bytes text.toList ↔ text = encode standard bytes := by
  rw [isStandardForm_iff, encode, ← String.toList_inj, String.toList_ofList]

end ApplicationLedger.Base64
