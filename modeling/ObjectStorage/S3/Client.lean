import ObjectStorage.LocalFile
import ObjectStorage.S3.Request
import ObjectStorage.Store

/-! An S3 service as an object storage. Large files are sent in parts, one after another. -/

namespace ObjectStorage.S3

/-- What a client works with: the service, the local machine and the sizes of parts. -/
structure Client (σ : Type) where
  service : Service σ
  machine : Machine σ
  sizing : Upload.Sizing := {}

/-- Why a program cannot go on at all. -/
inductive Fault where
  /-- A calculation has no result, which needs sizes that no file and no chosen sizing have. -/
  | arithmetic (fault : Number.ArithmeticFault)
  /-- A signature cannot be written as a header. -/
  | header
  deriving DecidableEq, Repr

namespace Fault

/-- The text of a fault. -/
def message : Fault → String
  | .arithmetic fault => fault.message
  | .header => "called `Result::unwrap()` on an `Err` value: InvalidHeaderValue"

/-- The exit code of a program that a fault ends. -/
def exitCode : Nat := 101

end Fault

/-- What a client does: it sends a request, reads a local file, or gives up for good. -/
inductive Event where
  | sent (request : Request) (answer : Except Failure request.Reply)
  | read (call : FileCall) (answer : Except FileFault call.Reply)
  | stopped (fault : Fault)

/-- The fault that a trace ended in, if it did. -/
def stopped? (trace : List Event) : Option Fault :=
  trace.findSome? fun
    | .stopped fault => some fault
    | _ => none

/-- Why a client could not carry out a call. -/
inductive Trouble where
  | storage (error : StorageError)
  | fault (fault : Fault)

/-- Whether trouble came from the service or a local file. -/
def Trouble.isStorage : Trouble → Bool
  | .storage _ => true
  | .fault _ => false

/-- The error that stands for trouble. -/
def Trouble.toError : Trouble → StorageError
  | .storage error => error
  | .fault cause => .general cause.message

/-- The events that trouble adds to a trace. -/
def Trouble.events : Trouble → List Event
  | .storage _ => []
  | .fault cause => [.stopped cause]

/-- The codes that say that something does not exist. -/
def notFoundCodes : List String := ["NoSuchKey", "NoSuchBucket", "NotFound"]

/-- The codes that say that access was refused. -/
def authenticationCodes : List String :=
  ["AccessDenied", "InvalidAccessKeyId", "SignatureDoesNotMatch"]

/-- The error for a failed request about a target. Only the service's code decides its kind. -/
def errorOf (code : Option String) (detail target : String) : StorageError :=
  match code with
  | none => .network detail
  | some code =>
    if code ∈ notFoundCodes then .notFound target
    else if code ∈ authenticationCodes then .authentication detail
    else .network detail

/-- What a request about a target that brought no reply means. -/
def Failure.trouble (target : String) : Failure → Trouble
  | .failed code detail => .storage (errorOf code detail target)
  | .unwritable => .fault .header

/-- Removes the quotes at both ends of an entity tag. -/
def bareTag (tag : String) : String :=
  String.ofList
    ((tag.toList.dropWhile (· == '"')).reverse.dropWhile (· == '"')).reverse

/-- The entry for an object that was stored. -/
def uploaded (target : ObjectRef) (size : Nat) (etag : Option String) (now : Timestamp) :
    ObjectEntry :=
  { ObjectEntry.ofSize target.key size with
    lastModified := some now
    etag := etag.map bareTag }

/-- The entry for an object of a listing. What the service left out counts as empty. -/
def ListedObject.toEntry (object : ListedObject) : ObjectEntry :=
  { ObjectEntry.ofSize (object.key.getD "") (object.size.getD 0) with
    lastModified := object.lastModified.bind Timestamp.ofSecond?
    etag := object.etag.map bareTag }

/-- The page that the service gave. -/
def ObjectList.toPage (list : ObjectList) : ListPage where
  items := list.contents.map ListedObject.toEntry
  truncated := list.isTruncated.getD false
  token := list.nextToken

namespace Client

variable {σ : Type}

/-- A client's work, which trouble ends early. -/
abbrev Work (σ : Type) := ExceptT Trouble (Session Event σ)

/-- Sends a request that is about a target. -/
def send (client : Client σ) (target : String) (request : Request) : Work σ request.Reply :=
  ExceptT.mk do
    let answer ← client.service.ask Event.sent request
    return answer.mapError (Failure.trouble target)

/-- Asks about a local file. -/
def read (client : Client σ) (call : FileCall) : Work σ call.Reply :=
  ExceptT.mk do
    let answer ← client.machine.files.ask Event.read call
    return answer.mapError fun fault => .storage (.file fault)

/-- The time of day. -/
def now (client : Client σ) : Work σ Timestamp := ExceptT.lift (Session.step client.machine.clock)

/-- The result of a calculation, whose fault is trouble. -/
def calculated {α : Type} (result : Except Number.ArithmeticFault α) : Work σ α :=
  ExceptT.mk (pure (result.mapError fun fault => .fault (.arithmetic fault)))

/-- Sends the bytes of one part of a file, and gives the part as the completing request names it. -/
def sendPart (client : Client σ) (source : Word) (target : ObjectRef) (uploadId : String)
    (partSize size number : Nat) : Work σ SentPart := do
  let range ← calculated (Upload.partRange number partSize size)
  let body ← client.read (.range source range)
  -- Requests carry numbers of 32 bits, whatever the number was.
  let carried := Int32.ofNat number
  let etag ← client.send target.display (.uploadPart target uploadId carried body)
  return ⟨carried, etag⟩

/-- Sends all parts of a file, one after another, and completes the upload, giving the entity tag of
the object. -/
def sendAndComplete (client : Client σ) (source : Word) (target : ObjectRef) (uploadId : String)
    (size : Nat) : Work σ (Option String) := do
  let partSize ← calculated (client.sizing.partSizeFor size)
  let count ← calculated (Upload.partCount size partSize)
  -- The first part that is not sent ends the work.
  let parts ← (List.range' 1 count).mapM
    (client.sendPart source target uploadId partSize size)
  client.send target.display (.completeUpload target uploadId parts)

/-- Gives up an upload in parts. What comes of it does not matter. -/
def abandon (client : Client σ) (target : ObjectRef) (uploadId : String) : Work σ Unit :=
  ExceptT.lift do
    let _ ← (client.send target.display (.abortUpload target uploadId)).run
    return ()

/-- Ends an upload in parts with the result that it had. One that failed is given up. -/
def settle (client : Client σ) (target : ObjectRef) (uploadId : String) (size : Nat) :
    Except Trouble (Option String) → Work σ ObjectEntry
  | .ok etag => return uploaded target size etag (← client.now)
  | .error trouble => do
    -- A fault ends the program, so there is nobody left to give the upload up.
    if trouble.isStorage then client.abandon target uploadId
    throw trouble

/-- Uploads a file in parts. -/
def putInParts (client : Client σ) (source : Word) (target : ObjectRef)
    (contentType : Option String) (size : Nat) : Work σ ObjectEntry := do
  match ← client.send target.display (.createUpload target contentType) with
  | none => throw (.storage (.general ("No upload id returned for " ++ target.display)))
  | some uploadId =>
    -- From here on trouble is looked at instead of ending everything.
    let result ← ExceptT.lift (client.sendAndComplete source target uploadId size).run
    client.settle target uploadId size result

/-- Uploads a file in one piece. -/
def putInOnePiece (client : Client σ) (source : Word) (target : ObjectRef)
    (contentType : Option String) (size : Nat) : Work σ ObjectEntry := do
  let body ← client.read (.contents source)
  let etag ← client.send target.display (.putObject target contentType body)
  return uploaded target size etag (← client.now)

/-- Uploads a regular file, in parts if it is large. -/
def putFile (client : Client σ) (source : Word) (target : ObjectRef) : Work σ ObjectEntry := do
  let status ← client.read (.status source)
  if status.regular then
    let contentType := client.machine.mediaType? source
    if client.sizing.usesParts status.size then
      client.putInParts source target contentType status.size
    else client.putInOnePiece source target contentType status.size
  else throw (.storage (.file (.notRegular source)))

/-- Fetches one page of a listing. -/
def listPage (client : Client σ) (bucket keyPrefix : String) (token : Option String) :
    Work σ ListPage := do
  let list ← client.send bucket (.listObjects bucket keyPrefix token)
  return list.toPage

/-- Carries out a call to the object storage. -/
def perform (client : Client σ) : (call : StoreCall) → Work σ call.Reply
  | .putFile source target => client.putFile source target
  | .listPage bucket keyPrefix token => client.listPage bucket keyPrefix token
  | .delete target => client.send target.display (.deleteObject target)

/-- The service as an object storage; what the client did so far is kept beside its condition. -/
def store (client : Client σ) : Store (σ × List Event) where
  answer call state :=
    let outcome := (client.perform call).run.run state.1
    let trace := state.2 ++ outcome.events
    match outcome.value with
    | .ok reply => (.ok reply, outcome.state, trace)
    -- Who calls an object storage is told of a fault as of an error.
    | .error trouble => (.error trouble.toError, outcome.state, trace ++ trouble.events)

end Client

end ObjectStorage.S3
