import ObjectStorage.Connection
import ObjectStorage.DateTime
import ObjectStorage.S3.Request
import ObjectStorage.Text.Percent
import ObjectStorage.Text.WhiteSpace
import ObjectStorage.Xml

/-! Requests to an S3 service as HTTP messages, and the service's answers read from them. -/

namespace ObjectStorage.S3

/-- Who signs requests, and for which region. -/
structure Signer where
  accessKey : String
  region : String

/-- The signer that a connection stands for. -/
def Signer.ofConnection (connection : Connection) : Signer :=
  ⟨connection.accessKey, connection.region⟩

/-- Whether a character can stand in the value of a header: no control but the tab can. -/
def isHeaderCharacter (c : Char) : Bool := c == '\t' || (' ' ≤ c && c != '\x7f')

/-- Whether what a signer signs with can be written as a header. -/
def Signer.isWritable (signer : Signer) : Bool :=
  (signer.accessKey ++ signer.region).toList.all isHeaderCharacter

/-- A request as it goes over the line. -/
structure HttpRequest where
  method : String
  path : String
  /-- Names with values, both percent-encoded; a name without a value stands alone. -/
  query : List String := []
  contentType : Option String := none
  body : ByteArray := ByteArray.empty
  signer : Signer

/-- An answer as it comes over the line. -/
structure HttpResponse where
  status : Nat
  headers : List (String × String) := []
  body : String := ""

/-- The media type of bytes of which nothing is known. -/
def octetStream : String := "application/octet-stream"

/-- The path of an object. -/
def objectPath (target : ObjectRef) : String :=
  "/" ++ Text.percentPath target.bucket ++ "/" ++ Text.percentPath target.key

/-- A name with a value in a query. -/
def queryPair (name value : String) : String := name ++ "=" ++ Text.percentQuery value

/-- The namespace of the service's documents. -/
def documentNamespace : String :=
  String.ofList Connection.plainScheme ++ "s3.amazonaws.com/doc/2006-03-01/"

/-- The document that names the parts of an object. -/
def partList (parts : List SentPart) : String :=
  "<CompleteMultipartUpload xmlns=\"" ++ documentNamespace ++ "\">"
    ++ String.join (parts.map fun part =>
      "<Part>"
        ++ (part.etag.map fun tag => "<ETag>" ++ Xml.escape tag ++ "</ETag>").getD ""
        ++ "<PartNumber>" ++ toString part.number.toInt ++ "</PartNumber></Part>")
    ++ "</CompleteMultipartUpload>"

/-- The message for a request. -/
def Request.toHttp (signer : Signer) : Request → HttpRequest
  | .putObject target contentType body =>
    { method := "PUT", path := objectPath target, body, signer
      contentType := some (contentType.getD octetStream) }
  | .createUpload target contentType =>
    { method := "POST", path := objectPath target, query := ["uploads"], contentType, signer }
  | .uploadPart target uploadId number body =>
    { method := "PUT", path := objectPath target, body, signer
      query := ["partNumber=" ++ toString number.toInt, queryPair "uploadId" uploadId]
      contentType := some octetStream }
  | .completeUpload target uploadId parts =>
    { method := "POST", path := objectPath target, query := [queryPair "uploadId" uploadId]
      contentType := some "application/xml", body := (partList parts).toUTF8, signer }
  | .abortUpload target uploadId =>
    { method := "DELETE", path := objectPath target, query := [queryPair "uploadId" uploadId]
      signer }
  | .listObjects bucket keyPrefix token =>
    { method := "GET", path := "/" ++ Text.percentPath bucket ++ "/", signer
      query := (token.map (queryPair "continuation-token")).toList
        ++ ["list-type=2", queryPair "prefix" keyPrefix] }
  | .deleteObject target => { method := "DELETE", path := objectPath target, signer }

/-- Whether a name can stand in an address: it is not empty, nor blank throughout. -/
def isNamed (text : String) : Bool := !Text.isBlank text

/-- Whether a request can be sent at all. -/
def Request.isSendable : Request → Bool
  | .putObject target _ _ => isNamed target.bucket && isNamed target.key
  | .createUpload target _ => isNamed target.bucket && isNamed target.key
  | .uploadPart target uploadId _ _ =>
    isNamed target.bucket && isNamed target.key && isNamed uploadId
  | .completeUpload target uploadId _ =>
    isNamed target.bucket && isNamed target.key && isNamed uploadId
  | .abortUpload target uploadId =>
    isNamed target.bucket && isNamed target.key && isNamed uploadId
  | .listObjects bucket _ _ => isNamed bucket
  | .deleteObject target => isNamed target.bucket && isNamed target.key

namespace HttpResponse

/-- Whether an answer tells of success. -/
def isSuccess (response : HttpResponse) : Bool := 200 ≤ response.status && response.status < 300

/-- The value of a header. Names are compared without regard to case. -/
def header? (response : HttpResponse) (name : String) : Option String :=
  (response.headers.find? fun header => header.1.toLower == name.toLower).map (·.2)

/-- The root of the document in an answer, if it has the given name. -/
def root? (response : HttpResponse) (name : String) : Option Xml :=
  (Xml.parse? response.body).filter fun root => root.name? == some name

/-- The code in the answer to a request that failed. -/
def errorCode? (response : HttpResponse) : Option String := do
  (← (← response.root? "Error").field? "Code")

end HttpResponse

/-- A truth value in a document. -/
def truth? : String → Option Bool
  | "true" => some true
  | "false" => some false
  | _ => none

/-- A whole number of 64 bits in a document. -/
def wholeNumber? (text : String) : Option Int := do
  -- A sign may stand in front, but only one.
  let value ← match text.toList with
    | '-' :: digits => (Xml.numeral? 10 digits).map fun n => -(n : Int)
    | '+' :: digits => (Xml.numeral? 10 digits).map Int.ofNat
    | digits => (Xml.numeral? 10 digits).map Int.ofNat
  if -0x8000000000000000 ≤ value ∧ value < 0x8000000000000000 then some value else none

/-- A field of a document with its text read by `read`; `none` inside if the field is missing. A
field that stands there several times must be readable each time, and the last counts. -/
def readField {α : Type} (node : Xml) (name : String) (read : String → Option α) :
    Option (Option α) := do
  return (← (← node.texts? name).mapM read).getLast?

/-- An object on a page of a listing. -/
def ListedObject.ofXml? (node : Xml) : Option ListedObject := do
  return {
    key := ← node.field? "Key"
    size := ← readField node "Size" wholeNumber?
    lastModified := ← readField node "LastModified" fun text => DateTime.second? text.toList
    etag := ← node.field? "ETag" }

/-- A page of a listing. -/
def ObjectList.ofXml? (root : Xml) : Option ObjectList := do
  return {
    contents := ← (root.named "Contents").mapM ListedObject.ofXml?
    isTruncated := ← readField root "IsTruncated" truth?
    nextToken := ← root.field? "NextContinuationToken" }

/-- The reply that a successful answer holds, if it can be read. -/
def Request.reply? (response : HttpResponse) : (request : Request) → Option request.Reply
  | .putObject _ _ _ => some (response.header? "ETag")
  | .createUpload _ _ => do
    (← response.root? "InitiateMultipartUploadResult").field? "UploadId"
  | .uploadPart _ _ _ _ => some (response.header? "ETag")
  | .completeUpload _ _ _ => do
    (← response.root? "CompleteMultipartUploadResult").field? "ETag"
  | .abortUpload _ _ => some ()
  | .listObjects _ _ _ => do ObjectList.ofXml? (← response.root? "ListBucketResult")
  | .deleteObject _ => some ()

/-- What an answer means for a request. -/
def Request.outcome (request : Request) (response : HttpResponse) :
    Except Failure request.Reply :=
  if response.isSuccess then
    -- An answer that tells of success may still lack what was asked for.
    match request.reply? response with
    | some reply => .ok reply
    | none => .error (.failed none "the answer cannot be read")
  else
    match response.errorCode? with
    | some code => .error (.failed code ("service error " ++ code))
    | none => .error (.failed none ("service error with status " ++ toString response.status))

/-- A line over which messages are exchanged, whose condition is a `σ`. An exchange may fail. -/
abbrev Line (σ : Type) := HttpRequest → σ → Except String HttpResponse × σ

/-- The service at the end of a line. What has no name is not even signed. -/
def Line.service {σ : Type} (line : Line σ) (signer : Signer) : Service σ where
  answer request state :=
    if !request.isSendable then
      (.error (.failed none "the request names no bucket, key or upload"), state)
    else if !signer.isWritable then (.error .unwritable, state)
    else
      match line (request.toHttp signer) state with
      | (.ok response, state) => (request.outcome response, state)
      | (.error detail, state) => (.error (.failed none detail), state)

/-- A line that is cut: no message gets through. -/
def Line.cut {σ : Type} (detail : String) : Line σ := fun _ state => (.error detail, state)

end ObjectStorage.S3
