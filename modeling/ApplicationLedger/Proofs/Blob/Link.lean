/-
This file proves that a link tells all that it was made of. Clients choose the keys in links, but
what is written of a key holds none of the marks between the parts of a link, so each part ends at
the first mark of its own. The bucket and the disposition are not escaped; they tell their ends if
they are without the mark that follows them.
-/

import ApplicationLedger.Blob.Link
import ApplicationLedger.Proofs.Bytes.Percent
import ApplicationLedger.Proofs.Number.Digits
import ApplicationLedger.Proofs.Text.Mark

namespace ApplicationLedger.SignedLink

/-- Whether two links lead to one file, show it in one way and end with one second. -/
structure SaysSame (l l' : SignedLink) : Prop where
  bucket : l.bucket = l'.bucket
  key : l.key = l'.key
  contentType : l.contentType = l'.contentType
  disposition : l.disposition = l'.disposition
  second : l.expiresAt.second = l'.expiresAt.second

theorem saysSame_iff {l l' : SignedLink} :
    l.SaysSame l' ↔ l.bucket = l'.bucket ∧ l.key = l'.key ∧ l.contentType = l'.contentType ∧
      l.disposition = l'.disposition ∧ l.expiresAt.second = l'.expiresAt.second :=
  ⟨fun ⟨bucket, key, contentType, disposition, second⟩ =>
      ⟨bucket, key, contentType, disposition, second⟩,
    fun ⟨bucket, key, contentType, disposition, second⟩ =>
      ⟨bucket, key, contentType, disposition, second⟩⟩

/-- A link, cut at its marks. -/
theorem toList_text (l : SignedLink) (base : String) :
    (l.text base).toList =
      (withoutTrailingSlashes base ++ "/files/").toList ++ (l.bucket.toList ++ '/' ::
        ((Percent.encode l.key).toList ++ '?' :: ("content-type=".toList ++
          ((Percent.encode l.contentType).toList ++ '&' :: ("disposition=".toList ++
            (l.disposition.toList ++ '&' :: ("expires=".toList ++
              ((toString l.expiresAt.second).toList ++ '&' ::
                ("token=".toList ++ l.token.toList))))))))) := by
  simp only [text, String.toList_append, List.append_assoc]
  rfl

variable {base : String} {l l' : SignedLink}

theorem mark_not_mem_encode {mark : Char} (isMark : mark = '?' ∨ mark = '&') (text : String) :
    mark ∉ (Percent.encode text).toList := by
  refine (Percent.encode_spec text).1.not_mem ?_ ?_ ?_ <;> rcases isMark with rfl | rfl <;> decide

/-- Links have one text if and only if they say the same and have one token. -/
theorem text_eq_iff (slashless : '/' ∉ l.bucket.toList) (slashless' : '/' ∉ l'.bucket.toList)
    (unjoined : '&' ∉ l.disposition.toList) (unjoined' : '&' ∉ l'.disposition.toList) :
    l.text base = l'.text base ↔ l.SaysSame l' ∧ l.token = l'.token := by
  have key (m : SignedLink) : '?' ∉ (Percent.encode m.key).toList :=
    mark_not_mem_encode (.inl rfl) _
  have contentType (m : SignedLink) : '&' ∉ (Percent.encode m.contentType).toList :=
    mark_not_mem_encode (.inr rfl) _
  have second (m : SignedLink) : '&' ∉ (toString m.expiresAt.second).toList :=
    not_mem_toString_int (by decide) (by decide) _
  rw [← String.toList_inj, toList_text, toList_text, List.append_right_inj,
    Text.append_firstMark_inj slashless slashless', Text.append_firstMark_inj (key l) (key l'),
    List.append_right_inj, Text.append_firstMark_inj (contentType l) (contentType l'),
    List.append_right_inj, Text.append_firstMark_inj unjoined unjoined', List.append_right_inj,
    Text.append_firstMark_inj (second l) (second l'), List.append_right_inj]
  simp only [String.toList_inj, Percent.encode_inj, toString_int_inj, saysSame_iff, and_assoc]

/-- Below any base, two links whose buckets have no slash and whose dispositions have no ampersand
have one text if and only if they say the same and have one token. In the text of any link stand,
between the parts that are not escaped, its key and its content type, written with plain characters
and escaped bytes only; whoever decodes them finds the UTF-8 forms of both. -/
theorem text_tells_link (base : String) :
    (∀ l l' : SignedLink, '/' ∉ l.bucket.toList → '/' ∉ l'.bucket.toList →
      '&' ∉ l.disposition.toList → '&' ∉ l'.disposition.toList →
      (l.text base = l'.text base ↔ l.SaysSame l' ∧ l.token = l'.token)) ∧
    ∀ l : SignedLink, ∃ key contentType,
      l.text base =
        withoutTrailingSlashes base ++ "/files/" ++ l.bucket ++ "/" ++ String.ofList key ++
          "?content-type=" ++ String.ofList contentType ++ "&disposition=" ++ l.disposition ++
          "&expires=" ++ toString l.expiresAt.second ++ "&token=" ++ l.token ∧
      (Percent.IsWritten key ∧ Percent.decode key = Bytes.ofText l.key) ∧
      Percent.IsWritten contentType ∧ Percent.decode contentType = Bytes.ofText l.contentType := by
  refine ⟨fun l l' => text_eq_iff, fun l => ?_⟩
  refine ⟨(Percent.encode l.key).toList, (Percent.encode l.contentType).toList, ?_,
    Percent.encode_spec l.key, Percent.encode_spec l.contentType⟩
  rw [String.ofList_toList, String.ofList_toList, text]

/-- A link with marks in its key and in its content type. -/
def sampleLink : SignedLink :=
  ⟨"b", "a/b?c&d=100% é", "text/plain; charset=utf-8", "inline; filename=x", ⟨-1, 0⟩, "t&u=/"⟩

/-- The sample is told from one with another key, and its key is read back. -/
theorem text_tells_link_sample :
    '/' ∉ sampleLink.bucket.toList ∧ '&' ∉ sampleLink.disposition.toList ∧
      sampleLink.text "http://h//" ≠ { sampleLink with key := "a" }.text "http://h//" ∧
      ∃ key, Percent.IsWritten key ∧ Percent.decode key = Bytes.ofText "a/b?c&d=100% é" := by
  have slashless : '/' ∉ sampleLink.bucket.toList := by decide
  have unjoined : '&' ∉ sampleLink.disposition.toList := by decide
  obtain ⟨tells, shows⟩ := text_tells_link "http://h//"
  refine ⟨slashless, unjoined, fun same => ?_, ?_⟩
  · have key := ((tells sampleLink { sampleLink with key := "a" } slashless slashless unjoined
      unjoined).mp same).1.key
    exact absurd key (by decide)
  · obtain ⟨key, _, -, read, -⟩ := shows sampleLink
    exact ⟨key, read⟩

end ApplicationLedger.SignedLink
