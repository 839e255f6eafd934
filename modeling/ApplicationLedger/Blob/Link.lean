/-
This file signs links to files. The token of a link is a keyed digest of all that the link says:
where the file is, how it is shown and until when. These are joined with slashes and not escaped.
-/

import ApplicationLedger.Blob.Key
import ApplicationLedger.Bytes.Base64
import ApplicationLedger.Bytes.Percent
import ApplicationLedger.Bytes.Sha256

namespace ApplicationLedger

/-- A link to a file. -/
structure SignedLink where
  bucket : String
  key : String
  contentType : String
  disposition : String
  expiresAt : Instant
  token : String
  deriving DecidableEq, Repr

namespace SignedLink

/-- The text that is signed. -/
def signedText (l : SignedLink) : String :=
  l.bucket ++ "/" ++ l.key ++ "/" ++ l.contentType ++ "/" ++ l.disposition ++ "/" ++
    toString l.expiresAt.second

/-- A text without the slashes at its end. -/
def withoutTrailingSlashes (text : String) : String :=
  String.ofList (text.toList.reverse.dropWhile (· == '/')).reverse

/-- The link as text, below a public address. -/
def text (l : SignedLink) (base : String) : String :=
  withoutTrailingSlashes base ++ "/files/" ++ l.bucket ++ "/" ++ Percent.encode l.key ++
    "?content-type=" ++ Percent.encode l.contentType ++ "&disposition=" ++ l.disposition ++
    "&expires=" ++ toString l.expiresAt.second ++ "&token=" ++ l.token

end SignedLink

/-- What signs links: a secret, and the seconds that links hold. -/
structure LinkSigner where
  secret : Bytes
  lifetime : Int

/-- The signed link to a file of a bucket, from now on. -/
def LinkSigner.sign (s : LinkSigner) (bucket key : String) (headers : ContentHeaders)
    (now : Instant) : SignedLink :=
  let plain : SignedLink :=
    ⟨bucket, key, headers.contentType, headers.disposition, now.addSeconds s.lifetime, ""⟩
  let digest := Sha256.keyedDigest s.secret (.ofText plain.signedText)
  let token := Base64.encode Base64.forLinks digest
  { plain with token }

end ApplicationLedger
