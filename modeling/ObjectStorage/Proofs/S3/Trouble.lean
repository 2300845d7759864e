import ObjectStorage.Proofs.Listing.Walk
import ObjectStorage.Proofs.S3.Course

/-! What goes wrong for a client stands in its trace, and the trace tells of one trouble at most:
the one whose error is the answer to the call. -/

namespace ObjectStorage

/-- What a call is about, as errors name it: an object, or a bucket for a listing. -/
def StoreCall.subject : StoreCall → String
  | .putFile _ target => target.display
  | .listPage bucket _ _ => bucket
  | .delete target => target.display

/-- The error that an answer about a local file means. -/
def FileCall.error? : (call : FileCall) → Except FileFault call.Reply → Option StorageError
  | _, .error fault => some (.file fault)
  | .status path, .ok found => if found.regular then none else some (.file (.notRegular path))
  | _, _ => none

namespace S3

/-- The error that the answer to a request means in work about a subject. What comes of giving an
upload up is none. -/
def Request.error? (subject : String) :
    (request : Request) → Except Failure request.Reply → Option StorageError
  | .abortUpload _ _, _ => none
  | _, .error (.failed code detail) => some (errorOf code detail subject)
  | .createUpload _ _, .ok none => some (.general ("No upload id returned for " ++ subject))
  | _, _ => none

/-- The trouble that an event means for work about a subject. -/
def Event.trouble? (subject : String) : Event → Option Trouble
  | .sent request answer => (request.error? subject answer).map .storage
  | .read call answer => (call.error? answer).map .storage
  | .stopped fault => some (.fault fault)

/-- The trouble that a trace tells of. -/
def troubles (subject : String) (trace : List Event) : List Trouble :=
  trace.filterMap (Event.trouble? subject)

/-- Traces that follow one another tell of the trouble of both. -/
@[simp] theorem troubles_append (subject : String) (earlier later : List Event) :
    troubles subject (earlier ++ later) = troubles subject earlier ++ troubles subject later :=
  List.filterMap_append

variable {σ α β : Type} {subject : String}

/-- The trace of some work tells of no trouble if the work gave a value, and else of the trouble
that ended it, once. -/
def Told (subject : String) (outcome : Outcome Event σ (Except Trouble α)) : Prop :=
  match outcome.value with
  | .ok _ => troubles subject outcome.events = []
  | .error trouble => troubles subject (outcome.events ++ trouble.events) = [trouble]

/-- Events without trouble may stand in front. -/
theorem Told.after {outcome : Outcome Event σ (Except Trouble α)} {events : List Event}
    (fine : troubles subject events = []) (told : Told subject outcome) :
    Told subject (outcome.after events) := by
  -- If a value was given, nothing is told of; else the trouble stands behind the events.
  obtain ⟨value, state, later⟩ := outcome
  cases value with
  | ok value => exact (troubles_append _ _ _).trans (by rw [fine]; exact told)
  | error trouble =>
    change troubles subject (events ++ later ++ trouble.events) = [trouble]
    rw [List.append_assoc, troubles_append, fine]
    exact told

namespace Client

/-- Work that tells of its trouble from any state. -/
def Tells (subject : String) (work : Work σ α) : Prop := ∀ state, Told subject (work.run.run state)

/-- Steps that tell make work that tells. -/
theorem Tells.bind {work : Work σ α} {rest : α → Work σ β} (first : Tells subject work)
    (second : ∀ value, Tells subject (rest value)) : Tells subject (work >>= rest) := by
  -- The first step ends the work, or the rest goes on from where it ended.
  intro state
  have told := first state
  cases done : work.run.run state with
  | mk result next events =>
    rw [done] at told
    cases result with
    -- Trouble ends the work, so the rest adds nothing.
    | error trouble =>
      rw [run_bind_error done]
      exact told
    | ok value =>
      rw [run_bind_ok done]
      exact (second value next).after told

/-- Giving a value leaves nothing to tell. -/
theorem tells_pure (value : α) : Tells subject (pure value : Work σ α) := fun _ => rfl

/-- Doing for one value after another what tells of its trouble tells of the first. -/
theorem Tells.mapM {work : α → Work σ β} (each : ∀ value, Tells subject (work value))
    (values : List α) : Tells subject (values.mapM work) := by
  -- The first value is worked on before the others, so the induction is on the values.
  induction values with
  | nil => exact tells_pure _
  | cons value rest ih =>
    rw [List.mapM_cons]
    exact (each value).bind fun _ => ih.bind fun _ => tells_pure _

variable (client : Client σ)

section Upload

variable (source : Word) (target : ObjectRef)

end Upload

end Client

/-- What calls added to a client's trace tells of one trouble at most, and its error is the one that
the calls met. -/
def Accounted (subject : String) (before after : σ × List Event) (made : List Exchange) : Prop :=
  ∃ (new : List Event) (met : Option Trouble), after.2 = before.2 ++ new ∧
    troubles subject new = met.toList ∧ failureOf made = met.map Trouble.toError

/-- No calls leave nothing to account for. -/
theorem Accounted.refl (state : σ × List Event) : Accounted subject state state [] :=
  ⟨[], none, (List.append_nil _).symm, rfl, rfl⟩

/-- Calls that went well may be followed by others. -/
theorem Accounted.trans {before middle after : σ × List Event} {earlier later : List Exchange}
    (one : Accounted subject before middle earlier) (fine : failureOf earlier = none)
    (other : Accounted subject middle after later) :
    Accounted subject before after (earlier ++ later) := by
  -- The events of the second follow those of the first, which has no trouble.
  obtain ⟨first, met, begun, told, failed⟩ := one
  obtain ⟨second, last, ended, toldLast, failedLast⟩ := other
  obtain rfl : met = none := by simpa [fine, eq_comm] using failed
  refine ⟨first ++ second, last, ?_, ?_, ?_⟩
  · rw [ended, begun, List.append_assoc]
  · rw [troubles_append, told, toldLast]
    rfl
  · rw [failureOf_append, fine, failedLast, Option.none_or]

namespace Client

variable (client : Client σ)

end Client

end S3

end ObjectStorage
