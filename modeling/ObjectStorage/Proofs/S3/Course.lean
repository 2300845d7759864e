import ObjectStorage.Proofs.S3.Parts

/-! The courses that an upload in parts can take, from the first request to the last. -/

namespace ObjectStorage.S3

/-- The courses of an upload in parts, by how far it came. -/
inductive Course where
  /-- It was not started: creating it failed, or gave no identifier. -/
  | uncreated
  /-- A part was not sent, and the upload was given up. -/
  | interrupted
  /-- All parts were sent, and the upload was completed. -/
  | completed
  /-- All parts were sent, but completing the upload failed, and it was given up. -/
  | rejected
  deriving DecidableEq

namespace Job

/-- The job under the identifier that the service gave it. -/
def transfer (job : Job) (uploadId : String) : Transfer := { job with uploadId }

/-- The events up to the answer to the creating request. -/
def opening (job : Job) (answer : Except Failure (Option String)) : List Event :=
  [.read (.status job.source) (.ok ⟨true, job.size⟩),
    .sent (.createUpload job.target job.contentType) answer]

/-- The events of an upload that has an identifier, up to the last part that was sent. -/
def begun (job : Job) (uploadId : String) (parts : List PartSent) : List Event :=
  job.opening (.ok (some uploadId)) ++ parts.flatMap (job.transfer uploadId).sent

/-- What follows the parts comes after the opening, which has two events. -/
theorem begun_append (job : Job) (uploadId : String) (parts : List PartSent) (rest : List Event) :
    job.begun uploadId parts ++ rest =
      .read (.status job.source) (.ok ⟨true, job.size⟩)
        :: .sent (.createUpload job.target job.contentType) (.ok (some uploadId))
        :: (parts.flatMap (job.transfer uploadId).sent ++ rest) := by
  -- Only the brackets are moved.
  rw [begun, List.append_assoc]
  rfl

/-- What each course gives, and all that it does. The parts that are sent are numbered from one on
without a gap, and the first error is the one that is reported. -/
inductive Goes (job : Job) : Course → Except Trouble ObjectEntry → List Event → Prop
  | refused (failure : Failure) :
    job.Goes .uncreated (.error (failure.trouble job.target.display))
      (job.opening (.error failure))
  | unnamed :
    job.Goes .uncreated
      (.error (.storage (.general ("No upload id returned for " ++ job.target.display))))
      (job.opening (.ok none))
  | stuck (uploadId : String) (parts : List PartSent) (setback : Setback)
    (answer : Except Failure Unit)
    (numbered : parts.map PartSent.number = List.range' 1 parts.length)
    (early : parts.length < job.count) :
    job.Goes .interrupted (.error (setback.trouble job.target))
      (job.begun uploadId parts ++ (job.transfer uploadId).stuck (parts.length + 1) setback
        ++ [.sent (.abortUpload job.target uploadId) answer])
  | completed (uploadId : String) (parts : List PartSent) (etag : Option String) (now : Timestamp)
    (numbered : parts.map PartSent.number = List.range' 1 job.count) :
    job.Goes .completed (.ok (uploaded job.target job.size etag now))
      (job.begun uploadId parts
        ++ [.sent (.completeUpload job.target uploadId (parts.map PartSent.listed)) (.ok etag)])
  | rejected (uploadId : String) (parts : List PartSent) (failure : Failure)
    (answer : Except Failure Unit)
    (numbered : parts.map PartSent.number = List.range' 1 job.count) :
    job.Goes .rejected (.error (failure.trouble job.target.display))
      (job.begun uploadId parts
        ++ [.sent (.completeUpload job.target uploadId (parts.map PartSent.listed))
            (.error failure),
          .sent (.abortUpload job.target uploadId) answer])

end Job

/-- All requests of a trace could be signed, so that each of them was answered or failed. -/
def Signed (trace : List Event) : Prop :=
  ∀ request, Event.sent request (.error .unwritable) ∉ trace

/-- A failure is reported as an error of the storage, unless a signature is missing. -/
theorem Failure.trouble_cases (failure : Failure) (target : String) :
    (failure.trouble target).isStorage = true ∨
      failure = .unwritable ∧ failure.trouble target = .fault .header := by
  -- Either the service refused, or the request could not be written.
  cases failure with
  | failed code detail => exact .inl rfl
  | unwritable => exact .inr ⟨rfl, rfl⟩

/-- A setback is reported as an error of the storage, unless a signature is missing. -/
theorem Setback.trouble_cases (setback : Setback) (target : ObjectRef) :
    (setback.trouble target).isStorage = true ∨
      ∃ body, setback = .unsent body .unwritable ∧ setback.trouble target = .fault .header := by
  -- A file that cannot be read needs no signature.
  cases setback with
  | unread fault => exact .inl rfl
  | unsent body failure =>
    rcases failure.trouble_cases target.display with isStorage | ⟨rfl, fault⟩
    · exact .inl isStorage
    · exact .inr ⟨body, rfl, fault⟩

namespace Client

variable {σ : Type} (client : Client σ) (job : Job) (state : σ)

/-- Sending the parts of a laid out job ends with all of them sent, or with the first that is
not. -/
theorem run_deliver_numbers (laid : Upload.Laid client.sizing job.size job.partSize job.count)
    (uploadId : String) :
    (∃ (parts : List PartSent) (next : σ), parts.map PartSent.number = List.range' 1 job.count ∧
      ((List.range' 1 job.count).mapM (client.sendPart job.source job.target uploadId job.partSize
        job.size)).run.run state =
        ⟨.ok (parts.map PartSent.listed), next,
          parts.flatMap (job.transfer uploadId).sent⟩) ∨
    (∃ (parts : List PartSent) (setback : Setback) (next : σ),
      parts.map PartSent.number = List.range' 1 parts.length ∧ parts.length < job.count ∧
      ((List.range' 1 job.count).mapM (client.sendPart job.source job.target uploadId job.partSize
        job.size)).run.run state =
        ⟨.error (setback.trouble job.target), next,
          parts.flatMap (job.transfer uploadId).sent
            ++ (job.transfer uploadId).stuck (parts.length + 1) setback⟩) := by
  -- The layout gives every number a range, so sending stops at setbacks only.
  have ranged : ∀ number ∈ List.range' 1 job.count,
      Upload.partRange number (job.transfer uploadId).partSize (job.transfer uploadId).size =
        .ok ((job.transfer uploadId).range number) := by
    intro number member
    rw [List.mem_range'_1] at member
    exact laid.ranges number member.1 (by omega)
  rcases client.run_deliver_all (job.transfer uploadId) _ ranged state with
    sent | ⟨parts, number, rest, setback, next, split, stopped⟩
  · exact .inl sent
  · -- The numbers before the one that was not sent are the first ones.
    obtain ⟨before, within, first, last⟩ := List.range'_eq_append_iff.mp split
    obtain ⟨rfl, remaining, -⟩ := List.range'_eq_cons_iff.mp last.symm
    have length : parts.length = before := by simpa using congrArg List.length first
    subst length
    refine .inr ⟨parts, setback, next, first, by omega, ?_⟩
    rw [Nat.mul_one, Nat.add_comm 1] at stopped
    exact stopped

/-- Once an upload has an identifier, the parts are sent and it is completed, or the first trouble
on the way ends it. -/
theorem run_sendAndComplete
    (laid : Upload.Laid client.sizing job.size job.partSize job.count) (uploadId : String) :
    (∃ (parts : List PartSent) (etag : Option String) (next : σ),
      parts.map PartSent.number = List.range' 1 job.count ∧
      (client.sendAndComplete job.source job.target uploadId job.size).run.run state =
        ⟨.ok etag, next, parts.flatMap (job.transfer uploadId).sent
          ++ [.sent (.completeUpload job.target uploadId (parts.map PartSent.listed))
              (.ok etag)]⟩) ∨
    (∃ (parts : List PartSent) (failure : Failure) (next : σ),
      parts.map PartSent.number = List.range' 1 job.count ∧
      (client.sendAndComplete job.source job.target uploadId job.size).run.run state =
        ⟨.error (failure.trouble job.target.display), next,
          parts.flatMap (job.transfer uploadId).sent
            ++ [.sent (.completeUpload job.target uploadId (parts.map PartSent.listed))
                (.error failure)]⟩) ∨
    (∃ (parts : List PartSent) (setback : Setback) (next : σ),
      parts.map PartSent.number = List.range' 1 parts.length ∧ parts.length < job.count ∧
      (client.sendAndComplete job.source job.target uploadId job.size).run.run state =
        ⟨.error (setback.trouble job.target), next,
          parts.flatMap (job.transfer uploadId).sent
            ++ (job.transfer uploadId).stuck (parts.length + 1) setback⟩) := by
  -- The sizes are calculated without a fault, so the parts come first.
  have laidOut : (client.sendAndComplete job.source job.target uploadId job.size).run.run state =
      ((List.range' 1 job.count).mapM (client.sendPart job.source job.target uploadId job.partSize
        job.size) >>= fun parts => client.send job.target.display
          (.completeUpload job.target uploadId parts)).run.run state := by
    rw [sendAndComplete, run_bind_ok (run_calculated laid.chosen state),
      run_bind_ok (run_calculated laid.counted state)]
    rfl
  rw [laidOut]
  rcases client.run_deliver_numbers job state laid uploadId with
    ⟨parts, next, numbered, delivered⟩ | ⟨parts, setback, next, numbered, early, stopped⟩
  · -- All parts were sent, and the service joins them or not.
    cases completed : client.service.answer
      (.completeUpload job.target uploadId (parts.map PartSent.listed)) next with
    | mk answer last =>
      cases answer with
      -- The answer to the completing request is the result in both cases.
      | ok etag =>
        refine .inl ⟨parts, etag, last, numbered, (run_bind_ok delivered _).trans ?_⟩
        exact congrArg (Outcome.after _) (run_send_ok client next completed _)
      | error failure =>
        refine .inr (.inl ⟨parts, failure, last, numbered, (run_bind_ok delivered _).trans ?_⟩)
        exact congrArg (Outcome.after _) (run_send_error client next completed _)
  · -- After a setback the upload is not completed.
    exact .inr (.inr ⟨parts, setback, next, numbered, early, run_bind_error stopped _⟩)

/-- A completed upload ends with its entry. -/
theorem run_settle_ok (target : ObjectRef) (uploadId : String) (size : Nat)
    (etag : Option String) :
    (client.settle target uploadId size (.ok etag)).run.run state =
      ⟨.ok (uploaded target size etag (client.machine.clock state).1),
        (client.machine.clock state).2, []⟩ := rfl

/-- An upload that met an error of the storage is given up, and the error is kept. -/
theorem run_settle_error (target : ObjectRef) (uploadId : String) (size : Nat)
    {trouble : Trouble} (isStorage : trouble.isStorage = true) :
    (client.settle target uploadId size (.error trouble)).run.run state =
      ⟨.error trouble, (client.service.answer (.abortUpload target uploadId) state).2,
        [.sent (.abortUpload target uploadId)
          (client.service.answer (.abortUpload target uploadId) state).1]⟩ := by
  -- The request to give the upload up is the only event, whatever comes of it.
  simp only [settle, isStorage, if_true]
  rfl

/-- An upload that met a fault ends where it is. -/
theorem run_settle_fault (target : ObjectRef) (uploadId : String) (size : Nat) (fault : Fault) :
    (client.settle target uploadId size (.error (.fault fault))).run.run state =
      ⟨.error (.fault fault), state, []⟩ := rfl

/-- An upload that has an identifier ends by the result of sending its parts. -/
theorem run_putInParts_started {uploadId : String} {created last : σ}
    {result : Except Trouble (Option String)} {events : List Event}
    (answered : client.service.answer (.createUpload job.target job.contentType) state =
      (.ok (some uploadId), created))
    (done : (client.sendAndComplete job.source job.target uploadId job.size).run.run created =
      ⟨result, last, events⟩) :
    (client.putInParts job.source job.target job.contentType job.size).run.run state =
      ((client.settle job.target uploadId job.size result).run.run last).after
        (.sent (.createUpload job.target job.contentType) (.ok (some uploadId))
          :: events) := by
  -- The identifier is known first, and then the trouble of sending is looked at.
  refine (run_bind_ok (run_send_ok client state answered _) _).trans ?_
  exact congrArg (Outcome.after _) (run_bind_ok (run_attempt done) _)

/-- An upload that has an identifier is completed, rejected or interrupted, unless a request could
not be signed. -/
theorem goes_started (laid : Upload.Laid client.sizing job.size job.partSize job.count)
    {uploadId : String} {created : σ}
    (answered : client.service.answer (.createUpload job.target job.contentType) state =
      (.ok (some uploadId), created)) :
    let outcome :=
      (client.putInParts job.source job.target job.contentType job.size).run.run state
    (∃ course, job.Goes course outcome.value
      (.read (.status job.source) (.ok ⟨true, job.size⟩) :: outcome.events)) ∨
    (outcome.value = .error (.fault .header) ∧ ¬ Signed outcome.events) := by
  intro outcome
  rcases client.run_sendAndComplete job created laid uploadId with
    ⟨parts, etag, last, numbered, done⟩ | ⟨parts, failure, last, numbered, done⟩ |
    ⟨parts, setback, last, numbered, early, done⟩
  · -- Completed, the upload only looks at the time.
    have run : outcome = _ := client.run_putInParts_started job state answered done
    rw [run, run_settle_ok]
    refine .inl ⟨.completed, ?_⟩
    have goes : job.Goes .completed _ _ :=
      .completed uploadId parts etag (client.machine.clock last).1 numbered
    rw [Job.begun_append] at goes
    simpa only [Outcome.after, List.append_nil] using goes
  · -- Rejected, it is given up behind the completing request.
    have run : outcome = _ := client.run_putInParts_started job state answered done
    rcases failure.trouble_cases job.target.display with isStorage | ⟨rfl, fault⟩
    · rw [run, run_settle_error client last _ _ _ isStorage]
      refine .inl ⟨.rejected, ?_⟩
      have goes : job.Goes .rejected _ _ := .rejected uploadId parts failure
        (client.service.answer (.abortUpload job.target uploadId) last).1 numbered
      rw [Job.begun_append] at goes
      simpa only [Outcome.after, List.append_assoc, List.cons_append, List.nil_append] using goes
    · -- Without a signature the program ends before it could give the upload up.
      rw [run, fault, run_settle_fault]
      refine .inr ⟨rfl, fun signed => signed
        (.completeUpload job.target uploadId (parts.map PartSent.listed)) ?_⟩
      simp [Outcome.after]
  · -- Interrupted, it is given up behind the part that was not sent.
    have run : outcome = _ := client.run_putInParts_started job state answered done
    rcases setback.trouble_cases job.target with isStorage | ⟨body, rfl, fault⟩
    · rw [run, run_settle_error client last _ _ _ isStorage]
      refine .inl ⟨.interrupted, ?_⟩
      have goes : job.Goes .interrupted _ _ := .stuck uploadId parts setback
        (client.service.answer (.abortUpload job.target uploadId) last).1 numbered early
      rw [List.append_assoc, Job.begun_append] at goes
      simpa only [Outcome.after, List.append_assoc, List.cons_append] using goes
    · -- The request that could not be signed is the one for this part.
      rw [run, fault, run_settle_fault]
      refine .inr ⟨rfl, fun signed => signed (.uploadPart job.target uploadId
        (Int32.ofNat (parts.length + 1)) body) ?_⟩
      simp [Outcome.after, Transfer.stuck, Job.transfer]

/-- An upload in parts goes one of the courses, unless a request could not be signed. -/
theorem goes_putInParts (laid : Upload.Laid client.sizing job.size job.partSize job.count) :
    let outcome :=
      (client.putInParts job.source job.target job.contentType job.size).run.run state
    (∃ course, job.Goes course outcome.value
      (.read (.status job.source) (.ok ⟨true, job.size⟩) :: outcome.events)) ∨
    (outcome.value = .error (.fault .header) ∧ ¬ Signed outcome.events) := by
  -- The answer to the creating request decides how far the upload comes.
  intro outcome
  cases created : client.service.answer (.createUpload job.target job.contentType)
    state with
  | mk answer next =>
    cases answer with
    | error failure =>
      -- The upload was not created, so there is nothing to give up.
      have run : outcome = ⟨.error (failure.trouble job.target.display), next,
          [.sent (.createUpload job.target job.contentType) (.error failure)]⟩ :=
        run_bind_error (run_send_error client state created _) _
      rw [run]
      exact .inl ⟨_, .refused failure⟩
    | ok identifier =>
      cases identifier with
      | none =>
        -- Without an identifier no part can be sent.
        have run : outcome = ⟨.error (.storage (.general ("No upload id returned for "
              ++ job.target.display))), next,
            [.sent (.createUpload job.target job.contentType) (.ok none)]⟩ :=
          run_bind_ok (run_send_ok client state created _) _
        rw [run]
        exact .inl ⟨_, .unnamed⟩
      | some uploadId => exact client.goes_started job state laid created

end Client

end ObjectStorage.S3
