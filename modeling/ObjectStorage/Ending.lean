import ObjectStorage.Execution
import ObjectStorage.S3.Client

/-! How a run of the program over an S3 service ends: its exit code and what it printed. -/

namespace ObjectStorage

/-- What a run leaves behind. -/
structure Ending where
  code : Nat
  output : String
  errors : String

/-- The ending for a command line that was not understood. What was asked for is output, and all
else is an error. -/
def Ending.ofRejection (rejection : CommandLine.Rejection) : Ending :=
  if rejection.isAnswer then ⟨rejection.exitCode, rejection.message, ""⟩
  else ⟨rejection.exitCode, "", rejection.message⟩

/-- Whether a run ended with a document that standard output did not take. What comes of printing a
document is not looked at, unlike what comes of the lines of a listing, so the program gives up. -/
def Event.choked (trace : List Event) : Bool :=
  match trace.reverse with
  | .wrote _ false :: .called ⟨.listPage _ _ _, _⟩ :: _ => false
  | .wrote _ false :: .called _ :: _ => true
  | _ => false

/-- The ending of a run; none comes of a listing that outlasts its fuel. A fault ends the run at
once, so nothing is reported but its text. -/
def Ending.ofOutcome {σ : Type}
    (outcome : Outcome Event (σ × List S3.Event)
      (Except CommandLine.Rejection (Option ExitStatus))) : Option Ending :=
  match S3.stopped? outcome.state.2 with
  -- What was shown before the fault stays.
  | some fault =>
    some ⟨S3.Fault.exitCode, Event.standardOutput outcome.events, fault.message ++ "\n"⟩
  | none =>
    match outcome.value with
    | .error rejection => some (.ofRejection rejection)
    | .ok status => status.map fun status =>
      if Event.choked outcome.events then
        -- The cause that the system names behind this text is left out.
        ⟨S3.Fault.exitCode, Event.standardOutput outcome.events, "failed printing to stdout\n"⟩
      else
        ⟨status.code, Event.standardOutput outcome.events, Event.standardError outcome.events⟩

end ObjectStorage
