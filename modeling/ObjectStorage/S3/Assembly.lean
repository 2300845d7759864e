import ObjectStorage.S3.Client

/-! What a service holds after the requests that it answered: objects, and the parts of uploads that
are not complete. -/

namespace ObjectStorage.S3

/-- An object as a service holds it. -/
structure StoredObject where
  body : ByteArray
  contentType : Option String

/-- A part as a service holds it, with the entity tag that the service gave it. -/
structure HeldPart where
  body : ByteArray
  etag : Option String

/-- An upload in parts that is not complete. -/
structure OpenUpload where
  target : ObjectRef
  contentType : Option String
  /-- The parts by their numbers, the latest first. -/
  parts : List (Int32 × HeldPart) := []

/-- The bytes of the listed parts, one behind the other. The list must be in the order of the
numbers, and each part must have been sent and be listed with the tag that it was given. -/
def OpenUpload.join? (upload : OpenUpload) (listed : List SentPart) : Option ByteArray := do
  guard (listed.Pairwise fun earlier later => earlier.number < later.number)
  let bodies ← listed.mapM fun part =>
    ((upload.parts.lookup part.number).filter fun held => held.etag = part.etag).map (·.body)
  return bodies.foldl (· ++ ·) ByteArray.empty

/-- What a service holds. -/
structure Holdings where
  object? : ObjectRef → Option StoredObject
  upload? : String → Option OpenUpload

namespace Holdings

/-- Puts an object in its place, or takes it away. -/
def setObject (holdings : Holdings) (target : ObjectRef) (object : Option StoredObject) :
    Holdings :=
  { holdings with
    object? := fun asked => if asked = target then object else holdings.object? asked }

/-- Opens an upload, changes it or closes it. -/
def setUpload (holdings : Holdings) (uploadId : String) (upload : Option OpenUpload) : Holdings :=
  { holdings with
    upload? := fun asked => if asked = uploadId then upload else holdings.upload? asked }

/-- An open upload of a target. -/
def openUpload? (holdings : Holdings) (target : ObjectRef) (uploadId : String) :
    Option OpenUpload :=
  (holdings.upload? uploadId).filter fun upload => upload.target = target

/-- What becomes of the holdings by one event. Only requests that succeed count. -/
def note (holdings : Holdings) : Event → Holdings
  | .sent (.putObject target contentType body) (.ok _) =>
    holdings.setObject target (some ⟨body, contentType⟩)
  | .sent (.createUpload target contentType) (.ok (some uploadId)) =>
    holdings.setUpload uploadId (some ⟨target, contentType, []⟩)
  | .sent (.uploadPart target uploadId number body) (.ok etag) =>
    match holdings.openUpload? target uploadId with
    | some upload =>
      holdings.setUpload uploadId
        (some { upload with parts := (number, ⟨body, etag⟩) :: upload.parts })
    | none => holdings
  -- Parts that do not fit what was sent become nothing.
  | .sent (.completeUpload target uploadId listed) (.ok _) =>
    match holdings.openUpload? target uploadId with
    | some upload =>
      match upload.join? listed with
      | some body =>
        (holdings.setObject target (some ⟨body, upload.contentType⟩)).setUpload uploadId none
      | none => holdings
    | none => holdings
  | .sent (.abortUpload _ uploadId) (.ok ()) => holdings.setUpload uploadId none
  | .sent (.deleteObject target) (.ok ()) => holdings.setObject target none
  | _ => holdings

/-- What a service holds after all that a trace tells of. -/
def after (holdings : Holdings) (trace : List Event) : Holdings := trace.foldl note holdings

end Holdings

end ObjectStorage.S3
