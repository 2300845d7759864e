import ObjectStorage.ObjectRef
import ObjectStorage.ObjectEntry
import ObjectStorage.Session

/-! The requests that a client of an S3 service sends, and what they are answered with. -/

namespace ObjectStorage.S3

/-- A part that was sent, as the completing request names it. Requests carry the numbers of parts as
32-bit numbers. -/
structure SentPart where
  number : Int32
  etag : Option String
  deriving DecidableEq, Repr

/-- A request to the service. -/
inductive Request where
  /-- Store an object in one piece. -/
  | putObject (target : ObjectRef) (contentType : Option String) (body : ByteArray)
  /-- Start an upload in parts. -/
  | createUpload (target : ObjectRef) (contentType : Option String)
  /-- Send one part. -/
  | uploadPart (target : ObjectRef) (uploadId : String) (number : Int32) (body : ByteArray)
  /-- Make an object of the parts that were sent. -/
  | completeUpload (target : ObjectRef) (uploadId : String) (parts : List SentPart)
  /-- Throw away the parts that were sent. -/
  | abortUpload (target : ObjectRef) (uploadId : String)
  /-- Fetch one page of a listing. -/
  | listObjects (bucket keyPrefix : String) (token : Option String)
  /-- Delete an object. -/
  | deleteObject (target : ObjectRef)

/-- What is known of an object on a page of a listing. -/
structure ListedObject where
  key : Option String := none
  size : Option Int := none
  /-- The second of the last change. -/
  lastModified : Option Int := none
  etag : Option String := none
  deriving DecidableEq, Repr

/-- A page of a listing as the service gives it. -/
structure ObjectList where
  contents : List ListedObject := []
  isTruncated : Option Bool := none
  nextToken : Option String := none
  deriving DecidableEq, Repr

/-- What a request gives when it succeeds: the entity tag of what was sent, the identifier of the
upload, or a page of a listing. -/
def Request.Reply : Request → Type
  | .putObject _ _ _ => Option String
  | .createUpload _ _ => Option String
  | .uploadPart _ _ _ _ => Option String
  | .completeUpload _ _ _ => Option String
  | .abortUpload _ _ => Unit
  | .listObjects _ _ _ => ObjectList
  | .deleteObject _ => Unit

/-- Why a request brought no reply. -/
inductive Failure where
  /-- It failed, with the service's code, if the service answered with one, and all that is known in
  words. -/
  | failed (code : Option String) (detail : String)
  /-- Its signature cannot be written down. -/
  | unwritable
  deriving DecidableEq, Repr

/-- A service whose condition is a `σ`. -/
abbrev Service (σ : Type) := Answerer Request Request.Reply Failure σ

end ObjectStorage.S3
