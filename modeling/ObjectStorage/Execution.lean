import ObjectStorage.CommandLine.Parser
import ObjectStorage.Connection
import ObjectStorage.ExitStatus
import ObjectStorage.Listing
import ObjectStorage.Report

/-! Running the program: reading the settings, connecting, and one operation on the object storage,
with a trace of all that is done. -/

namespace ObjectStorage

open CommandLine (Command Flags Invocation Operation Rejection)

/-- Something that a run of the program does. -/
inductive Event where
  /-- The settings were read. -/
  | loaded (result : Except StorageError Connection)
  /-- A connection was asked for, and perhaps refused. -/
  | connected (connection : Connection) (refusal : Option StorageError)
  /-- The object storage was called. -/
  | called (exchange : Exchange)
  /-- A line was offered to standard output, which took it or not. -/
  | wrote (line : String) (accepted : Bool)
  /-- A line was written to standard error. -/
  | reported (line : String)

namespace Event

/-- The text that an event adds to standard output. -/
def output : Event → String
  | .wrote line true => line ++ "\n"
  | _ => ""

/-- The text that an event adds to standard error. -/
def errors : Event → String
  | .reported line => line ++ "\n"
  | _ => ""

/-- What a trace leaves on standard output. -/
def standardOutput (trace : List Event) : String := String.join (trace.map output)

/-- What a trace leaves on standard error. -/
def standardError (trace : List Event) : String := String.join (trace.map errors)

/-- The calls in a trace. -/
def exchanges (trace : List Event) : List Exchange :=
  trace.filterMap fun
    | .called exchange => some exchange
    | _ => none

end Event

/-- Where the lines of a listing go. -/
inductive Sink where
  /-- Nowhere. -/
  | nowhere
  /-- To standard output, which takes so many lines more, or any number. -/
  | output (room : Option Nat)
  deriving DecidableEq

namespace Sink

/-- Offers a line: what becomes of the sink unless it fails, and what happens. -/
def offer (line : String) : Sink → Option Sink × List Event
  | .nowhere => (some .nowhere, [])
  | .output none => (some (.output none), [.wrote line true])
  | .output (some 0) => (none, [.wrote line false])
  | .output (some (room + 1)) => (some (.output (some room)), [.wrote line true])

end Sink

/-- The line of a listing for an entry: its key, or all that is known of it as JSON. -/
def ObjectEntry.line (entry : ObjectEntry) (json : Bool) : String :=
  if json then entry.toJson.text else entry.key

variable {σ : Type}

/-- Writes the entries of a listing as they come, and tells how many were written. A line that
cannot be written ends the listing without an error. No answer comes when `fuel` entries or as many
empty pages in a row did not suffice. -/
def writeListing (store : Store σ) (json : Bool) :
    Nat → Sink → Listing → Nat → Session Event σ (Option (Except StorageError Nat))
  | 0, _, _, _ => pure none
  | fuel + 1, sink, listing, count => do
    let (pulled, listing) ← (listing.pull store fuel).mapEvents .called
    match pulled with
    | .entry entry =>
      -- A sink that fails ends the listing as if nothing were left.
      let (sink, events) := sink.offer (entry.line json)
      events.forM Session.emit
      match sink with
      | some sink => writeListing store json fuel sink listing (count + 1)
      | none => return some (.ok count)
    | .failed error => return some (.error error)
    | .ended => return some (.ok count)
    | .exhausted => return none

/-- What a run of the program is told about its output. -/
structure Console where
  style : Style
  /-- How many lines standard output takes before it fails, or any number. -/
  room : Option Nat := none

namespace Console

/-- Reports an error. -/
def reportError (console : Console) (message : String) : Session Event σ Unit :=
  Session.emit (.reported (console.style.errorLine message))

/-- Shows a JSON document. Nobody looks at what comes of it; how a run ends whose document was not
taken is told by its trace. -/
def showDocument (console : Console) (document : Json) : Session Event σ Unit :=
  match console.style.document (.ok document) with
  | some (.result line) => Session.emit (.wrote line (console.room != some 0))
  | some (.error line) => Session.emit (.reported line)
  | none => pure ()

end Console

/-- The JSON document that tells of an upload. -/
def uploadDocument (source : Word) (target : ObjectRef) (entry : ObjectEntry) : Json :=
  .object <|
    ("status", .string "success")
      :: ("source", .string source.display)
      :: ("target", .string target.display)
      :: ObjectEntry.member "size_bytes" .number entry.sizeBytes
      ++ ObjectEntry.member "size_human" .string entry.sizeHuman
      ++ ObjectEntry.member "etag" .string entry.etag

/-- The JSON document that tells of a deletion. -/
def deletionDocument (target : ObjectRef) : Json :=
  .object [("status", .string "success"), ("deleted", .string target.display)]

/-- Runs one operation. A status is missing only when a listing outlasts `fuel`. -/
def perform (store : Store σ) (console : Console) (fuel : Nat) :
    Operation → Session Event σ (Option ExitStatus)
  | .put source target => do
    match ← (store.putFile source target).mapEvents .called with
    | .ok entry =>
      if console.style.json then
        console.showDocument (uploadDocument source target entry)
      return some .success
    | .error error =>
      console.reportError ("Failed to upload " ++ source.display ++ ": " ++ error.message)
      return some (.ofError error)
  | .list bucket keyPrefix => do
    let stem := keyPrefix.getD ""
    let sink := if console.style.quiet then .nowhere else .output console.room
    match ← writeListing store console.style.json fuel sink (.start bucket stem) 0 with
    | some (.ok _) => return some .success
    | some (.error error) =>
      console.reportError ("Failed to list " ++ bucket ++ "/" ++ stem ++ ": " ++ error.message)
      return some (.ofError error)
    | none => return none
  | .remove target => do
    match ← (store.delete target).mapEvents .called with
    | .ok () =>
      if console.style.json then
        console.showDocument (deletionDocument target)
      return some .success
    | .error error =>
      console.reportError ("Failed to remove " ++ target.display ++ ": " ++ error.message)
      return some (.ofError error)

/-- What the program finds outside. -/
structure Surroundings (σ : Type) where
  /-- The settings, or why there are none. -/
  settings : Except StorageError Connection
  /-- The object storage behind a connection, or why there is none. -/
  connect : Connection → Except StorageError (Store σ)
  /-- Whether standard error is a terminal. -/
  errorTerminal : Bool := false
  /-- How many lines standard output takes before it fails, or any number. -/
  room : Option Nat := none

/-- The style that flags ask for. Errors are marked in color on a terminal only. -/
def Surroundings.style (outside : Surroundings σ) (flags : Flags) : Style where
  json := flags.json
  noColor := flags.noColor || !outside.errorTerminal
  quiet := flags.quiet

/-- Runs a command: the verb is looked at first, then the settings are read, and only then is a
connection made. -/
def execute (outside : Surroundings σ) (fuel : Nat) (invocation : Invocation) :
    Session Event σ (Option ExitStatus) :=
  let console : Console := ⟨outside.style invocation.flags, outside.room⟩
  match invocation.command with
  | .unknown verb _ => do
    Session.emit (.reported ("Unknown command: " ++ verb))
    return some .generalError
  | .operation operation => do
    Session.emit (.loaded outside.settings)
    match outside.settings with
    | .error error =>
      console.reportError error.message
      return some (.ofError error)
    | .ok connection =>
      match outside.connect connection with
      | .error error =>
        Session.emit (.connected connection (some error))
        console.reportError ("Failed to create S3 client: " ++ error.message)
        return some (.ofError error)
      | .ok store =>
        Session.emit (.connected connection none)
        perform store console fuel operation

/-- Runs the program on the words of a command line. -/
def runProgram (outside : Surroundings σ) (fuel : Nat) (words : List Word) :
    Session Event σ (Except Rejection (Option ExitStatus)) :=
  match CommandLine.parse words with
  | .error rejection => pure (.error rejection)
  | .ok invocation => do return .ok (← execute outside fuel invocation)

end ObjectStorage
