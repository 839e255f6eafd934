/-
This file proves that a text survives the way into a link. Whatever a client calls its files, what
is written of a name holds letters, digits, four marks that need no escape, and percent signs with
two digits behind each; so nothing in it can be taken for a part of the link around it. And whoever
decodes it finds the UTF-8 form of the text again.
-/

import ApplicationLedger.Bytes.Percent
import ApplicationLedger.Json.Reader

namespace ApplicationLedger.Percent

/-! ### Written texts -/

/-- Whether a character stands for itself in a link. -/
def IsPlain (c : Char) : Prop := c.isAlphanum = true ∨ c ∈ ['-', '_', '.', '~']

/-- Whether a character is an uppercase hexadecimal digit. -/
def IsHexDigit (c : Char) : Prop := c ∈ "0123456789ABCDEF".toList

instance : DecidablePred IsPlain := fun _ => inferInstanceAs (Decidable (_ ∨ _))

instance : DecidablePred IsHexDigit := fun c => inferInstanceAs (Decidable (c ∈ _))

/-- Whether a text is made of plain characters and of percent signs with two digits behind them. -/
inductive IsWritten : List Char → Prop
  | nil : IsWritten []
  | plain {c : Char} {rest : List Char} (isPlain : IsPlain c) (behind : IsWritten rest) :
      IsWritten (c :: rest)
  | escaped {high low : Char} {rest : List Char} (isHigh : IsHexDigit high)
      (isLow : IsHexDigit low) (behind : IsWritten rest) : IsWritten ('%' :: high :: low :: rest)

/-- The bytes behind a text in a link. A percent sign without two digits behind it stands for
itself, as any other character does. -/
def decode : List Char → Bytes
  | '%' :: high :: low :: rest =>
    match Json.hexValue? high, Json.hexValue? low with
    | some high, some low => UInt8.ofNat (high * 16 + low) :: decode rest
    | _, _ => String.utf8EncodeChar '%' ++ decode (high :: low :: rest)
  | c :: rest => String.utf8EncodeChar c ++ decode rest
  | [] => []

theorem isHexDigit_hexDigit : ∀ value < 16,
    IsHexDigit (hexDigit value) ∧ Json.hexValue? (hexDigit value) = some value := by
  decide

theorem isPlain_of_isUnreserved : ∀ value < 256, isUnreserved (UInt8.ofNat value) = true →
    IsPlain (Char.ofNat value) ∧ Char.ofNat value ≠ '%' ∧
      String.utf8EncodeChar (Char.ofNat value) = [UInt8.ofNat value] := by
  decide +kernel

theorem decode_escaped {high low : Char} {upper lower : Nat}
    (isHigh : Json.hexValue? high = some upper) (isLow : Json.hexValue? low = some lower)
    (rest : List Char) :
    decode ('%' :: high :: low :: rest) = UInt8.ofNat (upper * 16 + lower) :: decode rest := by
  simp only [decode, isHigh, isLow]

theorem decode_plain {c : Char} (plain : c ≠ '%') (rest : List Char) :
    decode (c :: rest) = String.utf8EncodeChar c ++ decode rest := by
  rw [decode.eq_def]
  split
  · rename_i same
    exact absurd (List.cons.inj same).1 plain
  · rename_i same
    obtain ⟨rfl, rfl⟩ := List.cons.inj same
    rfl
  · rename_i same
    cases same

/-! ### Texts -/

/-- One byte is written as it has to be, and read back, whatever follows. -/
theorem encodeByte_spec (byte : UInt8) {rest : List Char} (behind : IsWritten rest) :
    IsWritten (encodeByte byte ++ rest) ∧
      decode (encodeByte byte ++ rest) = byte :: decode rest := by
  have bound : byte.toNat < 256 := byte.toNat_lt
  have same : UInt8.ofNat byte.toNat = byte := UInt8.ofNat_toNat
  unfold encodeByte
  split
  · rename_i unreserved
    obtain ⟨isPlain, notPercent, written⟩ := isPlain_of_isUnreserved _ bound (by rwa [same])
    rw [List.singleton_append, decode_plain notPercent, written, same]
    exact ⟨.plain isPlain behind, rfl⟩
  · obtain ⟨isHigh, high⟩ := isHexDigit_hexDigit (byte.toNat / 16) (by omega)
    obtain ⟨isLow, low⟩ := isHexDigit_hexDigit (byte.toNat % 16) (by omega)
    have joined : byte.toNat / 16 * 16 + byte.toNat % 16 = byte.toNat := by omega
    rw [List.cons_append, List.cons_append, List.singleton_append, decode_escaped high low, joined,
      same]
    exact ⟨.escaped isHigh isLow behind, rfl⟩

/-- A text is written as it has to be, and its UTF-8 form is read back. -/
theorem encode_spec (text : String) :
    IsWritten (encode text).toList ∧ decode (encode text).toList = Bytes.ofText text := by
  rw [encode, String.toList_ofList]
  induction Bytes.ofText text with
  | nil => exact ⟨.nil, rfl⟩
  | cons byte rest inductionHypothesis =>
    rw [List.flatMap_cons]
    obtain ⟨written, read⟩ := encodeByte_spec byte inductionHypothesis.1
    exact ⟨written, by rw [read, inductionHypothesis.2]⟩

theorem encode_inj {text text' : String} : encode text = encode text' ↔ text = text' := by
  refine ⟨fun same => Bytes.ofText_injective ?_, congrArg encode⟩
  rw [← (encode_spec text).2, same, (encode_spec text').2]

/-- A mark of a link is neither plain nor a digit nor a percent sign, so it is not written. -/
theorem IsWritten.not_mem {text : List Char} (written : IsWritten text) {mark : Char}
    (notPlain : ¬IsPlain mark) (notDigit : ¬IsHexDigit mark) (notPercent : mark ≠ '%') :
    mark ∉ text := by
  induction written with
  | nil => exact List.not_mem_nil
  | plain isPlain _ inductionHypothesis =>
    rw [List.mem_cons, not_or]
    exact ⟨fun same => notPlain (same ▸ isPlain), inductionHypothesis⟩
  | escaped isHigh isLow _ inductionHypothesis =>
    rw [List.mem_cons, List.mem_cons, List.mem_cons, not_or, not_or, not_or]
    exact ⟨notPercent, fun same => notDigit (same ▸ isHigh), fun same => notDigit (same ▸ isLow),
      inductionHypothesis⟩

end ApplicationLedger.Percent
