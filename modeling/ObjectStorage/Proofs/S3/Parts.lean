import ObjectStorage.Proofs.S3.Work
import ObjectStorage.Proofs.Upload.Layout

/-! The parts of a file are read and sent one after another, until all are sent or one is not. -/

namespace ObjectStorage.S3

open Upload (ByteRange Laid partRange)

/-- A file that is to be uploaded in parts, with its media type and its layout. -/
structure Job where
  source : Word
  target : ObjectRef
  contentType : Option String
  size : Nat
  partSize : Nat
  count : Nat

/-- A job that the service knows by an identifier. -/
structure Transfer extends Job where
  uploadId : String

/-- A part that was sent: the bytes that were read, and the tag that the service answered with. -/
structure PartSent where
  number : Nat
  body : ByteArray
  etag : Option String

/-- The part as the completing request names it. -/
def PartSent.listed (part : PartSent) : SentPart := ⟨Int32.ofNat part.number, part.etag⟩

/-- Why a part was not sent. -/
inductive Setback where
  /-- The local file could not be read. -/
  | unread (fault : FileFault)
  /-- The service was asked and did not take the part. -/
  | unsent (body : ByteArray) (failure : Failure)

/-- The trouble that a setback means. -/
def Setback.trouble (target : ObjectRef) : Setback → Trouble
  | .unread fault => .storage (.file fault)
  | .unsent _ failure => failure.trouble target.display

namespace Transfer

/-- The bytes of the file that a part covers. -/
def range (transfer : Transfer) (number : Nat) : ByteRange :=
  ⟨(number - 1) * transfer.partSize, min (number * transfer.partSize) transfer.size⟩

/-- The events of a part that was sent. -/
def sent (transfer : Transfer) (part : PartSent) : List Event :=
  [.read (.range transfer.source (transfer.range part.number)) (.ok part.body),
    .sent (.uploadPart transfer.target transfer.uploadId (Int32.ofNat part.number) part.body)
      (.ok part.etag)]

/-- The events of a part that was not sent. -/
def stuck (transfer : Transfer) (number : Nat) : Setback → List Event
  | .unread fault => [.read (.range transfer.source (transfer.range number)) (.error fault)]
  | .unsent body failure =>
    [.read (.range transfer.source (transfer.range number)) (.ok body),
      .sent (.uploadPart transfer.target transfer.uploadId (Int32.ofNat number) body)
        (.error failure)]

end Transfer

namespace Client

variable {σ : Type} (client : Client σ) (transfer : Transfer)

/-- Sending one part of a transfer. -/
abbrev deliver (number : Nat) : Work σ SentPart :=
  client.sendPart transfer.source transfer.target transfer.uploadId transfer.partSize transfer.size
    number

/-- A part is read and sent, or there is a setback. -/
theorem run_deliver {number : Nat}
    (ranged : partRange number transfer.partSize transfer.size = .ok (transfer.range number))
    (state : σ) :
    (∃ part next, part.number = number ∧
      (client.deliver transfer number).run.run state =
        ⟨.ok part.listed, next, transfer.sent part⟩) ∨
    (∃ setback next, (client.deliver transfer number).run.run state =
      ⟨.error (setback.trouble transfer.target), next, transfer.stuck number setback⟩) := by
  -- The step asks for a range, reads it and sends what was read.
  unfold deliver sendPart
  -- The range has no fault, so only the local file and the service decide.
  rw [run_bind_ok (run_calculated ranged state)]
  cases read : client.machine.files.answer (.range transfer.source (transfer.range number))
    state with
  | mk answer next =>
    cases answer with
    | error fault =>
      -- Nothing is sent of a part that cannot be read.
      refine .inr ⟨.unread fault, next, ?_⟩
      rw [run_bind_error (run_read_error client state read)]
      rfl
    | ok body =>
      rw [run_bind_ok (run_read_ok client state read)]
      -- What was read is sent, and the service takes it or not.
      cases put : client.service.answer
        (.uploadPart transfer.target transfer.uploadId (Int32.ofNat number) body) next with
      | mk answer last =>
        cases answer with
        | error failure =>
          refine .inr ⟨.unsent body failure, last, ?_⟩
          rw [run_bind_error (run_send_error client next put _)]
          rfl
        | ok etag =>
          refine .inl ⟨⟨number, body, etag⟩, last, rfl, ?_⟩
          rw [run_bind_ok (run_send_ok client next put _)]
          rfl

/-- Parts are sent in the order of their numbers, until there is a setback. -/
theorem run_deliver_all (numbers : List Nat)
    (ranged : ∀ number ∈ numbers,
      partRange number transfer.partSize transfer.size = .ok (transfer.range number))
    (state : σ) :
    (∃ (parts : List PartSent) (next : σ), parts.map PartSent.number = numbers ∧
      (numbers.mapM (client.deliver transfer)).run.run state =
        ⟨.ok (parts.map PartSent.listed), next, parts.flatMap transfer.sent⟩) ∨
    (∃ (parts : List PartSent) (number : Nat) (rest : List Nat) (setback : Setback) (next : σ),
      numbers = parts.map PartSent.number ++ number :: rest ∧
      (numbers.mapM (client.deliver transfer)).run.run state =
        ⟨.error (setback.trouble transfer.target), next,
          parts.flatMap transfer.sent ++ transfer.stuck number setback⟩) := by
  -- The first part decides whether the rest is sent at all, so the induction is on the numbers.
  induction numbers generalizing state with
  | nil => exact .inl ⟨[], state, rfl, rfl⟩
  | cons number numbers ih =>
    simp only [List.mapM_cons]
    rcases client.run_deliver transfer (ranged number (by simp)) state with
      ⟨part, next, rfl, delivered⟩ | ⟨setback, next, stopped⟩
    · -- The part was sent, and the others follow.
      rw [run_bind_ok delivered]
      rcases ih (fun later member => ranged later (by simp [member])) next with
        ⟨parts, last, numbered, rest⟩ | ⟨parts, later, rest, setback, last, split, stopped⟩
      · refine .inl ⟨part :: parts, last, by simp [numbered], ?_⟩
        rw [run_bind_ok rest]
        simp [Outcome.after]
      · refine .inr ⟨part :: parts, later, rest, setback, last, by simp [split], ?_⟩
        rw [run_bind_error stopped]
        simp [Outcome.after, List.append_assoc]
    · -- After a setback no other part is tried.
      refine .inr ⟨[], number, numbers, setback, next, rfl, ?_⟩
      rw [run_bind_error stopped]
      simp

end Client

end ObjectStorage.S3
