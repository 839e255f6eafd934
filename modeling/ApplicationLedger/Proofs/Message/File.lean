/-
This file proves which files of messages can be taken: a file whose content is the standard form of
some bytes, with its name and these bytes, and no other. So nothing is lost or changed on the way,
and two contents that are both taken are two different sequences of bytes.
-/

import ApplicationLedger.Message.Basic
import ApplicationLedger.Proofs.Bytes.StandardForm

namespace ApplicationLedger.WireFile

open Base64 (IsStandardForm decode?_eq_some_iff isStandardForm_iff_encode)

/-- Whether the content of a file is the standard form of no bytes. -/
def IsUndecodable (f : WireFile) : Prop := ∀ content, ¬IsStandardForm content f.content.toList

/-- A file is taken if and only if its content is the standard form of the bytes. -/
theorem file_eq_ok_iff {f : WireFile} {submitted : SubmittedFile} :
    f.file = .ok submitted ↔
      submitted.name = f.name ∧ IsStandardForm submitted.content f.content.toList := by
  obtain ⟨name, content⟩ := submitted
  rw [← decode?_eq_some_iff, file]
  cases decode? : Base64.decode? f.content with
  | none => exact ⟨nofun, fun ⟨_, found⟩ => nomatch found⟩
  | some bytes =>
    constructor
    · rintro ⟨⟩
      exact ⟨rfl, rfl⟩
    · rintro ⟨rfl, ⟨⟩⟩
      rfl

/-- A file that cannot be taken is refused by its name. -/
theorem file_eq_error_iff {f : WireFile} {fault : Fault} :
    f.file = .error fault ↔ f.IsUndecodable ∧
      fault = .validation ("file " ++ f.name ++ " is not valid base64: <base64>") := by
  have undecodable : f.IsUndecodable ↔ Base64.decode? f.content = none := by
    rw [Option.eq_none_iff_forall_not_mem]
    exact forall_congr' fun content => not_congr decode?_eq_some_iff.symm
  rw [undecodable, file]
  cases decode? : Base64.decode? f.content with
  | none =>
    constructor
    · rintro ⟨⟩
      exact ⟨rfl, rfl⟩
    · rintro ⟨-, rfl⟩
      rfl
  | some bytes => exact ⟨nofun, fun ⟨missing, _⟩ => nomatch missing⟩

theorem file_eq_ok_iff_eq_ofBytes {f : WireFile} {submitted : SubmittedFile} :
    f.file = .ok submitted ↔ f = ofBytes submitted.name submitted.content := by
  obtain ⟨name, text⟩ := f
  rw [file_eq_ok_iff, isStandardForm_iff_encode, ofBytes, mk.injEq]
  exact and_congr_left' eq_comm

/-- A file made of bytes is taken as these bytes under its name. A file is taken as some bytes if
and only if its content is their standard form: the symbols of the standard alphabet, filled to
whole groups, that hold the bits of the bytes and then zeros. This form is the text that is made of
the bytes, and no other. So files with different contents are never taken as the same bytes. -/
theorem taken_iff_standard_form :
    (∀ name content, (ofBytes name content).file = .ok ⟨name, content⟩) ∧
    (∀ (f : WireFile) (submitted : SubmittedFile), f.file = .ok submitted ↔
      submitted.name = f.name ∧ IsStandardForm submitted.content f.content.toList) ∧
    (∀ (f : WireFile) (submitted : SubmittedFile),
      f.file = .ok submitted ↔ f = ofBytes submitted.name submitted.content) ∧
    ∀ (f f' : WireFile) (submitted submitted' : SubmittedFile), f.file = .ok submitted →
      f'.file = .ok submitted' → f.content ≠ f'.content →
        submitted.content ≠ submitted'.content := by
  refine ⟨fun _ _ => file_eq_ok_iff_eq_ofBytes.mpr rfl, fun _ _ => file_eq_ok_iff,
    fun _ _ => file_eq_ok_iff_eq_ofBytes, ?_⟩
  intro f f' submitted submitted' taken taken' different same
  rw [file_eq_ok_iff_eq_ofBytes] at taken taken'
  rw [taken, taken', ofBytes, ofBytes, same] at different
  exact different rfl

/-- One byte and two bytes, in the two forms that are filled. -/
theorem taken_iff_standard_form_short :
    (⟨"a", "Zg=="⟩ : WireFile).file = .ok ⟨"a", [102]⟩ ∧
      (⟨"b", "Zm8="⟩ : WireFile).file = .ok ⟨"b", [102, 111]⟩ ∧
        ([102] : Bytes) ≠ [102, 111] := by
  have first : (⟨"a", "Zg=="⟩ : WireFile).file = .ok ⟨"a", [102]⟩ := rfl
  have second : (⟨"b", "Zm8="⟩ : WireFile).file = .ok ⟨"b", [102, 111]⟩ := rfl
  exact ⟨first, second, taken_iff_standard_form.2.2.2 _ _ _ _ first second (by decide)⟩

end ApplicationLedger.WireFile
