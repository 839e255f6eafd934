/-
This file says how far the token of a link pins the link down. Where the file is and until when the
link holds cannot be changed: neither bucket nor key has a slash, so they end at the first two of
the signed text, and the second stands behind the last. Between them stand the headers, joined with
one more slash, and a content type has a slash of its own; so the border between the headers can be
moved, and a link that the service made can be made to show its file in another way.
-/

import ApplicationLedger.Proofs.Blob.Confinement
import ApplicationLedger.Proofs.Blob.Link
import ApplicationLedger.Proofs.Bytes.Base64

namespace ApplicationLedger

/-! ### Headers -/

namespace ContentHeaders

/-- The headers as they are signed. -/
def joined (h : ContentHeaders) : String := h.contentType ++ "/" ++ h.disposition

theorem toList_joined (h : ContentHeaders) :
    h.joined.toList = h.contentType.toList ++ '/' :: h.disposition.toList := by
  simp only [joined, String.toList_append, List.append_assoc]
  rfl

variable {h h' : ContentHeaders}

theorem ext_toList (contentType : h.contentType.toList = h'.contentType.toList)
    (disposition : h.disposition.toList = h'.disposition.toList) : h = h' := by
  cases h
  cases h'
  rw [ContentHeaders.mk.injEq]
  exact ⟨String.toList_inj.mp contentType, String.toList_inj.mp disposition⟩

/-- The border between headers is at the last slash if no disposition has one. -/
theorem eq_of_joined_eq (slashless : '/' ∉ h.disposition.toList)
    (slashless' : '/' ∉ h'.disposition.toList) (same : h.joined = h'.joined) : h = h' := by
  rw [← String.toList_inj, toList_joined, toList_joined,
    Text.append_lastMark_inj slashless slashless'] at same
  exact ext_toList same.1 same.2

/-- Headers can be told from all others that could have been joined if and only if they have no
slash. -/
theorem joined_tells_iff :
    (∀ h' : ContentHeaders, h'.joined = h.joined → h' = h) ↔
      '/' ∉ h.contentType.toList ∧ '/' ∉ h.disposition.toList := by
  rw [← Text.append_mark_tells_iff]
  constructor
  · intro told contentType disposition same
    have moved := told ⟨String.ofList contentType, String.ofList disposition⟩ <| by
      rw [← String.toList_inj, toList_joined, toList_joined, String.toList_ofList,
        String.toList_ofList, same]
    rw [← moved, String.toList_ofList, String.toList_ofList]
    exact ⟨rfl, rfl⟩
  · intro told h' same
    rw [← String.toList_inj, toList_joined, toList_joined] at same
    obtain ⟨contentType, disposition⟩ := told _ _ same
    exact ext_toList contentType disposition

/-- The content type that goes with a key has a slash. -/
theorem slash_mem_ofKey (key : String) : '/' ∈ (ofKey key).contentType.toList := by
  unfold ofKey
  split <;> decide

end ContentHeaders

/-! ### What is signed -/

namespace SignedLink

/-- Whether bucket and key are ones that the store takes. -/
structure IsPlaced (l : SignedLink) : Prop where
  bucket : BlobKey.check l.bucket = .ok ()
  key : BlobKey.check l.key = .ok ()

/-- What a link says of how its file is shown. -/
def headers (l : SignedLink) : ContentHeaders := ⟨l.contentType, l.disposition⟩

/-- A link with other headers, for the same file and with the same end and token. -/
def withHeaders (l : SignedLink) (h : ContentHeaders) : SignedLink :=
  { l with contentType := h.contentType, disposition := h.disposition }

theorem token_withHeaders (l : SignedLink) (h : ContentHeaders) :
    (l.withHeaders h).token = l.token := rfl

/-- The signed text, cut at its marks. -/
theorem toList_signedText (l : SignedLink) :
    l.signedText.toList = l.bucket.toList ++ '/' :: (l.key.toList ++ '/' ::
      (l.headers.joined.toList ++ '/' :: (toString l.expiresAt.second).toList)) := by
  simp only [signedText, headers, ContentHeaders.joined, String.toList_append, List.append_assoc]
  rfl

variable {l l' : SignedLink}

theorem IsPlaced.withHeaders (placed : l.IsPlaced) (h : ContentHeaders) :
    (l.withHeaders h).IsPlaced :=
  ⟨placed.bucket, placed.key⟩

theorem saysSame_iff_headers :
    l'.SaysSame l ↔ l'.bucket = l.bucket ∧ l'.key = l.key ∧ l'.headers = l.headers ∧
      l'.expiresAt.second = l.expiresAt.second := by
  rw [saysSame_iff, headers, headers, ContentHeaders.mk.injEq, and_assoc]

/-- Bucket and key end at the first marks, and the second begins behind the last one. -/
theorem signedText_eq_iff (placed : l.IsPlaced) (placed' : l'.IsPlaced) :
    l'.signedText = l.signedText ↔ l'.bucket = l.bucket ∧ l'.key = l.key ∧
      l'.headers.joined = l.headers.joined ∧ l'.expiresAt.second = l.expiresAt.second := by
  have slashless {name : String} (valid : BlobKey.check name = .ok ()) : '/' ∉ name.toList :=
    (BlobKey.check_eq_ok_iff.mp valid).slashless
  have second (m : SignedLink) : '/' ∉ (toString m.expiresAt.second).toList :=
    not_mem_toString_int (by decide) (by decide) _
  rw [← String.toList_inj, toList_signedText, toList_signedText,
    Text.append_firstMark_inj (slashless placed'.bucket) (slashless placed.bucket),
    Text.append_firstMark_inj (slashless placed'.key) (slashless placed.key),
    Text.append_lastMark_inj (second l') (second l)]
  simp only [String.toList_inj, toString_int_inj]

/-- Links whose dispositions have no slash, as all have that the service makes, are told from each
other. -/
theorem signedText_eq_iff_saysSame (placed : l.IsPlaced) (placed' : l'.IsPlaced)
    (slashless : '/' ∉ l.disposition.toList) (slashless' : '/' ∉ l'.disposition.toList) :
    l'.signedText = l.signedText ↔ l'.SaysSame l := by
  have headers : l'.headers.joined = l.headers.joined ↔ l'.headers = l.headers :=
    ⟨ContentHeaders.eq_of_joined_eq slashless' slashless, congrArg ContentHeaders.joined⟩
  rw [signedText_eq_iff placed placed', saysSame_iff_headers, headers]

/-- A link is told from all others if and only if its headers are. -/
theorem signedText_tells_iff (placed : l.IsPlaced) :
    (∀ l' : SignedLink, l'.IsPlaced → l'.signedText = l.signedText → l'.SaysSame l) ↔
      '/' ∉ l.contentType.toList ∧ '/' ∉ l.disposition.toList := by
  refine Iff.trans ?_ (ContentHeaders.joined_tells_iff (h := l.headers))
  constructor
  · intro told h same
    have moved := told (l.withHeaders h) (placed.withHeaders h)
      ((signedText_eq_iff placed (placed.withHeaders h)).mpr ⟨rfl, rfl, same, rfl⟩)
    exact (saysSame_iff_headers.mp moved).2.2.1
  · intro told l' placed' same
    obtain ⟨bucket, key, joined, second⟩ := (signedText_eq_iff placed placed').mp same
    exact saysSame_iff_headers.mpr ⟨bucket, key, told _ joined, second⟩

end SignedLink

/-! ### What the token is good for -/

namespace LinkSigner

/-- Whether the token of a link is the one that a signer gives for what the link says. -/
def Accepts (s : LinkSigner) (l : SignedLink) : Prop :=
  l.token = Base64.encode Base64.forLinks (Sha256.keyedDigest s.secret (.ofText l.signedText))

/-- Whether two texts, though different, have one digest under the secret of a signer. -/
def Collide (s : LinkSigner) (text text' : String) : Prop :=
  text ≠ text' ∧
    Sha256.keyedDigest s.secret (.ofText text) = Sha256.keyedDigest s.secret (.ofText text')

variable {s : LinkSigner} {l l' : SignedLink}

/-- The token of an accepted link is good for the links with its signed text, and for others only by
a collision. -/
theorem accepts_iff (accepted : s.Accepts l) (token : l'.token = l.token) :
    s.Accepts l' ↔
      l'.signedText = l.signedText ∨ s.Collide l'.signedText l.signedText := by
  constructor
  · intro accepted'
    rw [or_iff_not_imp_left]
    intro different
    exact ⟨different, Base64.encode_injective (accepted'.symm.trans (token.trans accepted))⟩
  · intro same
    have digest : Sha256.keyedDigest s.secret (.ofText l'.signedText) =
        Sha256.keyedDigest s.secret (.ofText l.signedText) := by
      rcases same with same | collision
      · rw [same]
      · exact collision.2
    rw [Accepts, token, digest]
    exact accepted

theorem accepts_sign (s : LinkSigner) (bucket key : String) (headers : ContentHeaders)
    (now : Instant) : s.Accepts (s.sign bucket key headers now) := rfl

/-- A link that was made with the headers of a key is accepted with some others as well. -/
theorem exists_accepts_withHeaders {bucket key : String}
    (bucketValid : BlobKey.check bucket = .ok ()) (keyValid : BlobKey.check key = .ok ())
    (name : String) (now : Instant) :
    ∃ headers ≠ ContentHeaders.ofKey name,
      s.Accepts ((s.sign bucket key (.ofKey name) now).withHeaders headers) := by
  have accepted := accepts_sign s bucket key (.ofKey name) now
  have placed : (s.sign bucket key (.ofKey name) now).IsPlaced := ⟨bucketValid, keyValid⟩
  have untold : ¬∀ headers : ContentHeaders,
      headers.joined = (ContentHeaders.ofKey name).joined → headers = .ofKey name := by
    rw [ContentHeaders.joined_tells_iff]
    exact fun slashless => slashless.1 (ContentHeaders.slash_mem_ofKey name)
  push Not at untold
  obtain ⟨headers, same, other⟩ := untold
  refine ⟨headers, other, (accepts_iff accepted (SignedLink.token_withHeaders _ _)).mpr (.inl ?_)⟩
  exact (SignedLink.signedText_eq_iff placed (placed.withHeaders headers)).mpr
    ⟨rfl, rfl, same, rfl⟩

/-- How far tokens pin down the links to valid keys in valid buckets. Two such links have one signed
text if and only if they agree in bucket, key and second and their headers are joined to one text;
while no disposition has a slash, if and only if they say the same. A link is told from all others
if and only if neither of its headers has a slash. A token is good for a second link if and only if
that has the same signed text, unless two texts collide; and each link that was made with the
headers of a key is accepted with other headers too. -/
theorem token_pins_link (s : LinkSigner) :
    (∀ l l' : SignedLink, l.IsPlaced → l'.IsPlaced →
      (l'.signedText = l.signedText ↔ l'.bucket = l.bucket ∧ l'.key = l.key ∧
        l'.headers.joined = l.headers.joined ∧ l'.expiresAt.second = l.expiresAt.second) ∧
      ('/' ∉ l.disposition.toList → '/' ∉ l'.disposition.toList →
        (l'.signedText = l.signedText ↔ l'.SaysSame l))) ∧
    (∀ l : SignedLink, l.IsPlaced →
      ((∀ l' : SignedLink, l'.IsPlaced → l'.signedText = l.signedText → l'.SaysSame l) ↔
        '/' ∉ l.contentType.toList ∧ '/' ∉ l.disposition.toList)) ∧
    (∀ l l' : SignedLink, s.Accepts l → l'.token = l.token →
      (s.Accepts l' ↔ l'.signedText = l.signedText ∨ s.Collide l'.signedText l.signedText)) ∧
    ∀ bucket key name : String, BlobKey.check bucket = .ok () → BlobKey.check key = .ok () →
      ∀ now : Instant, ∃ headers ≠ ContentHeaders.ofKey name,
        s.Accepts ((s.sign bucket key (.ofKey name) now).withHeaders headers) := by
  refine ⟨fun l l' placed placed' => ⟨SignedLink.signedText_eq_iff placed placed',
    SignedLink.signedText_eq_iff_saysSame placed placed'⟩,
    fun l placed => SignedLink.signedText_tells_iff placed,
    fun l l' accepted token => accepts_iff accepted token,
    fun bucket key name bucketValid keyValid now =>
      exists_accepts_withHeaders bucketValid keyValid name now⟩

/-! ### A link that shows its file in two ways -/

/-- A signer whose links hold a quarter of an hour. -/
def sampleSigner : LinkSigner := ⟨.ofText "secret", 900⟩

/-- Its link to a text. -/
def sampleLink : SignedLink :=
  sampleSigner.sign "b" "k.txt" ⟨"text/plain", "inline"⟩ ⟨1709820300, 0⟩

/-- The same link, with the border between its headers at the other slash. -/
def movedLink : SignedLink := sampleLink.withHeaders ⟨"text", "plain/inline"⟩

/-- The same link, but to another file. -/
def renamedLink : SignedLink := { sampleLink with key := "other.txt" }

theorem isPlaced_sampleLink : sampleLink.IsPlaced := ⟨rfl, rfl⟩

theorem isPlaced_movedLink : movedLink.IsPlaced := isPlaced_sampleLink.withHeaders _

theorem movedLink_headers_ne : movedLink.headers ≠ sampleLink.headers := fun same =>
  absurd (congrArg ContentHeaders.contentType same) (by decide)

/-- The token of the sample is good for the moved link as well, and bad for the link to another
file, unless two texts collide. -/
theorem token_pins_link_sample :
    sampleLink.IsPlaced ∧ movedLink.IsPlaced ∧ movedLink.token = sampleLink.token ∧
      sampleSigner.Accepts sampleLink ∧ sampleSigner.Accepts movedLink ∧
      movedLink.headers ≠ sampleLink.headers ∧
      (sampleSigner.Accepts renamedLink →
        sampleSigner.Collide renamedLink.signedText sampleLink.signedText) := by
  obtain ⟨texts, -, tokens, -⟩ := token_pins_link sampleSigner
  have accepted : sampleSigner.Accepts sampleLink := accepts_sign ..
  have token : movedLink.token = sampleLink.token := SignedLink.token_withHeaders _ _
  have moved : movedLink.signedText = sampleLink.signedText :=
    (texts _ _ isPlaced_sampleLink isPlaced_movedLink).1.mpr ⟨rfl, rfl, rfl, rfl⟩
  refine ⟨isPlaced_sampleLink, isPlaced_movedLink, token, accepted,
    (tokens _ _ accepted token).mpr (.inl moved), movedLink_headers_ne, fun accepted' => ?_⟩
  have kept : renamedLink.token = sampleLink.token := rfl
  refine ((tokens _ _ accepted kept).mp accepted').resolve_left fun same => ?_
  have key := ((texts sampleLink renamedLink isPlaced_sampleLink ⟨rfl, rfl⟩).1.mp same).2.1
  exact absurd key (by decide)

/-- Not all links are told by what is signed. -/
theorem not_forall_saysSame_of_signedText_eq :
    ¬∀ l l' : SignedLink, l.IsPlaced → l'.IsPlaced → l'.signedText = l.signedText →
      l'.SaysSame l := by
  intro told
  have same : movedLink.signedText = sampleLink.signedText :=
    (SignedLink.signedText_eq_iff isPlaced_sampleLink isPlaced_movedLink).mpr ⟨rfl, rfl, rfl, rfl⟩
  have saysSame := told sampleLink movedLink isPlaced_sampleLink isPlaced_movedLink same
  exact movedLink_headers_ne (SignedLink.saysSame_iff_headers.mp saysSame).2.2.1

end LinkSigner

end ApplicationLedger
