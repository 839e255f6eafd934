/-
This file proves that an upload with a file that cannot be decoded changes nothing. All files are
decoded before the first one is stored, so the service is left as it is, down to the id that the
application would have had, and the answer names the first file that cannot be decoded.
-/

import ApplicationLedger.Proofs.Except
import ApplicationLedger.Proofs.Message.File
import ApplicationLedger.Proofs.Service.Upload
import ApplicationLedger.Service.Exchange

namespace ApplicationLedger

/-- Whatever is not undecodable is decoded. -/
theorem WireFile.exists_file_eq_ok {f : WireFile} (decodable : ¬f.IsUndecodable) :
    ∃ submitted, f.file = .ok submitted := by
  cases taken : f.file with
  | error fault => exact absurd (file_eq_error_iff.mp taken).1 decodable
  | ok submitted => exact ⟨submitted, rfl⟩

namespace Service

/-- If the files of an upload cannot all be decoded, the request is refused as it stands. -/
theorem dispatch_of_refused (s : Service) (now : Instant) (fields : ApplicationFields)
    {files : List WireFile} {reason : String}
    (refused : files.mapM WireFile.file = .error (.validation reason)) :
    s.dispatch now (.upload fields files) =
      (s, .error 400 .validation (Fault.validation reason).message) := by
  rw [dispatch, refused]
  rfl

/-- An upload in which the content of some file is the standard form of no bytes leaves the service
as it is. It is answered with the fault of the first such file, as a request that is not valid. -/
theorem dispatch_of_undecodable (s : Service) (now : Instant) (fields : ApplicationFields)
    (files : List WireFile) (undecodable : ∃ f ∈ files, f.IsUndecodable) :
    ∃ f fault, IsFirst WireFile.IsUndecodable files f ∧ f.file = .error fault ∧
      fault.message =
        "Validation error: " ++ ("file " ++ f.name ++ " is not valid base64: <base64>") ∧
      s.dispatch now (.upload fields files) = (s, .error 400 .validation fault.message) := by
  obtain ⟨f, first⟩ := exists_isFirst undecodable
  have failed := WireFile.file_eq_error_iff.mpr ⟨first.holds, rfl⟩
  have refused := mapM_eq_error_of_isFirst first
    (fun _ _ decodable => WireFile.exists_file_eq_ok decodable) failed
  exact ⟨f, _, first, failed, rfl, dispatch_of_refused s now fields refused⟩

/-- A file that can be decoded stands before one with bits behind its last byte and one that is not
filled. -/
theorem dispatch_of_undecodable_second :
    (∃ f ∈ [⟨"a", "Zg=="⟩, ⟨"b", "Zh=="⟩, ⟨"c", "Zg"⟩], WireFile.IsUndecodable f) ∧
    ∃ f fault, IsFirst WireFile.IsUndecodable [⟨"a", "Zg=="⟩, ⟨"b", "Zh=="⟩, ⟨"c", "Zg"⟩] f ∧
      f.file = .error fault ∧
      fault.message =
        "Validation error: " ++ ("file " ++ f.name ++ " is not valid base64: <base64>") ∧
      unused.dispatch ⟨0, 0⟩ (.upload .sample [⟨"a", "Zg=="⟩, ⟨"b", "Zh=="⟩, ⟨"c", "Zg"⟩]) =
        (unused, .error 400 .validation fault.message) := by
  have refused : (⟨"b", "Zh=="⟩ : WireFile).file =
      .error (.validation "file b is not valid base64: <base64>") := rfl
  have undecodable : ∃ f ∈ [⟨"a", "Zg=="⟩, ⟨"b", "Zh=="⟩, ⟨"c", "Zg"⟩],
      WireFile.IsUndecodable f :=
    ⟨_, List.mem_cons_of_mem _ List.mem_cons_self, (WireFile.file_eq_error_iff.mp refused).1⟩
  exact ⟨undecodable, dispatch_of_undecodable unused ⟨0, 0⟩ .sample _ undecodable⟩

end Service

end ApplicationLedger
