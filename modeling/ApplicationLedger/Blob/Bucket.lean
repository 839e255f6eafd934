/-
This file holds the bucket: a directory in which every file is an object under its key. A new object
is written beside its place first and then moved there, so no one sees half of it.
-/

import ApplicationLedger.Blob.Link
import ApplicationLedger.FileTree

namespace ApplicationLedger

/-- A directory of objects, with what is needed to make links to them. -/
structure Bucket where
  name : String
  directory : Path
  signer : LinkSigner
  /-- The address below which links lead. -/
  publicUrl : String

/-- A link that clients are given. -/
structure FileLink where
  url : String
  expiresAt : Instant
  deriving DecidableEq, Repr

namespace Bucket

/-- Opens a bucket below a directory, and makes its own directory if there is none. -/
def open? (t : FileTree) (root name : String) (signer : LinkSigner) (publicUrl : String) :
    Except Fault (FileTree × Bucket) :=
  if BlobKey.isValid name then
    let directory := Path.ofText (Path.join root name)
    match t.createDirectories directory with
    | .ok created => .ok (created, ⟨name, directory, signer, publicUrl⟩)
    | .error fault => .error (.io fault.message)
  else .error (.config ("invalid bucket name: " ++ Text.quoted name))

/-- The path of an object. -/
def objectPath (b : Bucket) (key : String) : Path := b.directory ++ [key]

/-- The path where an object is written first. -/
def partPath (b : Bucket) (key : String) : Path := b.directory ++ ["." ++ key ++ ".part"]

/-- Stores some bytes under a key, in place of what was there. If that fails, the half of the object
is removed again. -/
def put (b : Bucket) (key : String) (content : Bytes) (t : FileTree) :
    FileTree × Except Fault Unit :=
  match BlobKey.check key with
  | .error fault => (t, .error fault)
  | .ok () =>
    let failed (t : FileTree) (fault : SystemFault) : FileTree × Except Fault Unit :=
      ((t.remove (b.partPath key)).toOption.getD t,
        .error (.blob ("Failed to upload " ++ key ++ ": " ++ fault.message)))
    match t.write (b.partPath key) content with
    | .error fault => failed t fault
    | .ok written =>
      match written.rename (b.partPath key) (b.objectPath key) with
      | .error fault => failed written fault
      | .ok moved => (moved, .ok ())

/-- Removes the object under a key. -/
def delete (b : Bucket) (key : String) (t : FileTree) : FileTree × Except Fault Unit :=
  match BlobKey.check key with
  | .error fault => (t, .error fault)
  | .ok () =>
    match t.remove (b.objectPath key) with
    | .ok removed => (removed, .ok ())
    | .error .notFound => (t, .error (.notFound ("file " ++ key)))
    | .error fault =>
      (t, .error (.blob ("Failed to delete " ++ key ++ ": " ++ fault.message)))

/-- Makes a link to the object under a key, whether there is one or not. -/
def link (b : Bucket) (key : String) (headers : ContentHeaders) (now : Instant) :
    Except Fault FileLink := do
  BlobKey.check key
  let signed := b.signer.sign b.name key headers now
  .ok ⟨signed.text b.publicUrl, signed.expiresAt⟩

end Bucket

end ApplicationLedger
