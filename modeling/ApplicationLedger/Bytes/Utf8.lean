/-
This file turns texts into bytes and back. A byte list is a text when it is its UTF-8 form.
-/

namespace ApplicationLedger

/-- A sequence of bytes. -/
abbrev Bytes := List UInt8

namespace Bytes

/-- The UTF-8 form of a text. -/
def ofText (text : String) : Bytes :=
  text.toUTF8.data.toList

/-- The text with this UTF-8 form, if the bytes are one. -/
def text? (bytes : Bytes) : Option String :=
  String.fromUTF8? ⟨bytes.toArray⟩

/-- Bytes are read as the text of which they are the UTF-8 form. -/
theorem text?_eq_some_iff {bytes : Bytes} {text : String} :
    text? bytes = some text ↔ bytes = ofText text := by
  constructor
  · intro read
    unfold text? String.fromUTF8? at read
    split at read
    · cases read
      rfl
    · cases read
  · rintro rfl
    have same : (⟨(ofText text).toArray⟩ : ByteArray) = text.toByteArray := rfl
    rw [text?, same, String.fromUTF8?, dif_pos text.isValidUTF8]
    rfl

theorem text?_ofText (text : String) : text? (ofText text) = some text :=
  text?_eq_some_iff.mpr rfl

theorem ofText_injective {text text' : String} (same : ofText text = ofText text') :
    text = text' :=
  Option.some.inj ((text?_ofText text).symm.trans (text?_eq_some_iff.mpr same))

theorem length_ofText (text : String) : (ofText text).length = text.utf8ByteSize := rfl

end Bytes

end ApplicationLedger
