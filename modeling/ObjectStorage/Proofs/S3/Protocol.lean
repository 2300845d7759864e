import Mathlib.Logic.ExistsUnique
import ObjectStorage.Proofs.S3.Course

/-! An upload in parts follows one protocol whatever the service answers, and it leaves nothing
unfinished behind. -/

namespace ObjectStorage.S3

/-- What an event means for an upload in parts. -/
inductive Turn where
  /-- The upload goes on. -/
  | onward
  /-- A part is not sent. -/
  | failing
  /-- The service is asked to make an object of the parts. -/
  | completing
  /-- The upload is given up. -/
  | abandoning
  deriving DecidableEq

/-- What an event means for an upload in parts. -/
def Event.turn : Event → Turn
  | .sent (.uploadPart _ _ _ _) (.error _) => .failing
  | .read (.range _ _) (.error _) => .failing
  | .sent (.completeUpload _ _ _) _ => .completing
  | .sent (.abortUpload _ _) _ => .abandoning
  | _ => .onward

/-- The turns that end a course. All turns before them go on. -/
def Course.ending : Course → List Turn
  | .uncreated => []
  | .interrupted => [.failing, .abandoning]
  | .completed => [.completing]
  | .rejected => [.completing, .abandoning]

/-- Courses differ in how they end. -/
theorem Course.ending_injective {first second : Course}
    (same : first.ending = second.ending) : first = second := by
  -- The four endings are different lists, so only equal courses remain.
  cases first <;> cases second <;> first | rfl | cases same

/-- Sending parts goes on. -/
theorem Transfer.turn_sent (transfer : Transfer) (parts : List PartSent) :
    ∀ event ∈ parts.flatMap transfer.sent, event.turn = .onward := by
  intro event member
  -- Of each part there are two events, and neither fails.
  obtain ⟨part, -, inside⟩ := List.mem_flatMap.mp member
  simp only [sent, List.mem_cons, List.not_mem_nil, or_false] at inside
  rcases inside with rfl | rfl <;> rfl

/-- A part that is not sent may have been read before. -/
theorem Transfer.turns_stuck (transfer : Transfer) (number : Nat) (setback : Setback) :
    ∃ onward, (∀ turn ∈ onward, turn = .onward) ∧
      (transfer.stuck number setback).map Event.turn = onward ++ [.failing] := by
  -- A file that could not be read fails at once; a request that failed was made behind a read.
  cases setback with
  | unread fault => exact ⟨[], by simp, rfl⟩
  | unsent body failure => exact ⟨[.onward], by simp, rfl⟩

/-- The turns of a course are its ending, after turns that go on. -/
theorem Job.Goes.turns {job : Job} {course : Course} {value : Except Trouble ObjectEntry}
    {trace : List Event} (goes : job.Goes course value trace) :
    ∃ onward, (∀ turn ∈ onward, turn = .onward) ∧
      trace.map Event.turn = onward ++ course.ending := by
  -- The opening and the parts that were sent go on in every course.
  have begun : ∀ uploadId parts, ∀ turn ∈ (job.begun uploadId parts).map Event.turn,
      turn = .onward := by
    intro uploadId parts turn member
    obtain ⟨event, inside, rfl⟩ := List.mem_map.mp member
    rcases List.mem_append.mp inside with early | later
    · simp only [Job.opening, List.mem_cons, List.not_mem_nil, or_false] at early
      rcases early with rfl | rfl <;> rfl
    · exact Transfer.turn_sent _ parts event later
  cases goes with
  | refused failure => exact ⟨[.onward, .onward], by simp, rfl⟩
  | unnamed => exact ⟨[.onward, .onward], by simp, rfl⟩
  | stuck uploadId parts setback answer numbered early =>
    -- The part that was not sent may have been read, which goes on.
    obtain ⟨onward, all, stuck⟩ :=
      (job.transfer uploadId).turns_stuck (parts.length + 1) setback
    refine ⟨(job.begun uploadId parts).map Event.turn ++ onward, ?_, ?_⟩
    · intro turn member
      rcases List.mem_append.mp member with before | after
      · exact begun uploadId parts turn before
      · exact all turn after
    · rw [List.map_append, List.map_append, stuck]
      simp only [List.append_assoc]
      rfl
  -- Behind the parts that were sent there is nothing but the ending.
  | completed uploadId parts etag now numbered =>
    exact ⟨_, begun uploadId parts, by rw [List.map_append]; rfl⟩
  | rejected uploadId parts failure answer numbered =>
    exact ⟨_, begun uploadId parts, by rw [List.map_append]; rfl⟩

/-- No trace goes two courses. -/
theorem Job.Goes.course_unique {job : Job} {first second : Course}
    {value : Except Trouble ObjectEntry} {trace : List Event}
    (one : job.Goes first value trace) (other : job.Goes second value trace) : first = second := by
  -- What remains of the turns without those that go on is the ending.
  have remains : ∀ {course : Course}, job.Goes course value trace →
      (trace.map Event.turn).filter (· ≠ .onward) = course.ending := by
    intro course goes
    obtain ⟨onward, all, turns⟩ := goes.turns
    have none : onward.filter (· ≠ .onward) = [] :=
      List.filter_eq_nil_iff.mpr fun turn member => by simp [all turn member]
    rw [turns, List.filter_append, none, List.nil_append]
    cases course <;> rfl
  exact Course.ending_injective ((remains one).symm.trans (remains other))

/-- Only the completed course gives an entry. -/
theorem Job.Goes.exists_entry_iff {job : Job} {course : Course}
    {value : Except Trouble ObjectEntry} {trace : List Event}
    (goes : job.Goes course value trace) :
    (∃ entry, value = .ok entry) ↔ course = .completed := by
  -- Each course gives one kind of value.
  cases goes <;> simp

/-- The object that a request is about; none for a listing. -/
def Request.target? : Request → Option ObjectRef
  | .putObject target _ _ => some target
  | .createUpload target _ => some target
  | .uploadPart target _ _ _ => some target
  | .completeUpload target _ _ => some target
  | .abortUpload target _ => some target
  | .listObjects _ _ _ => none
  | .deleteObject target => some target

/-- The identifier of the upload that a request belongs to, if it names one. -/
def Request.uploadId? : Request → Option String
  | .uploadPart _ uploadId _ _ => some uploadId
  | .completeUpload _ uploadId _ => some uploadId
  | .abortUpload _ uploadId => some uploadId
  | _ => none

/-- A request, if the event is one, belongs to an upload of a target. -/
def Event.Belongs (target : ObjectRef) (uploadId : String) (event : Event) : Prop :=
  ∀ request answer, event = .sent request answer →
    request.target? = some target ∧ request.uploadId? = some uploadId

/-- An upload that has an identifier is completed, or it was asked to be given up. -/
def Closed (target : ObjectRef) (uploadId : String) (trace : List Event) : Prop :=
  (∃ parts etag, Event.sent (.completeUpload target uploadId parts) (.ok etag) ∈ trace) ∨
    ∃ answer, Event.sent (.abortUpload target uploadId) answer ∈ trace

/-- An event that belongs to an upload because its request names the target and the identifier. -/
theorem Event.belongs_sent {target : ObjectRef} {uploadId : String} {request : Request}
    {answer : Except Failure request.Reply} (about : request.target? = some target)
    (named : request.uploadId? = some uploadId) :
    (Event.sent request answer).Belongs target uploadId := by
  -- The event carries this request and no other.
  rintro _ _ ⟨⟩
  exact ⟨about, named⟩

/-- Reading a file belongs to any upload. -/
theorem Event.belongs_read (target : ObjectRef) (uploadId : String) (call : FileCall)
    (answer : Except FileFault call.Reply) : (Event.read call answer).Belongs target uploadId :=
  fun _ _ impossible => nomatch impossible

/-- All that is done for a part belongs to the upload. -/
theorem Transfer.belongs_sent (transfer : Transfer) (parts : List PartSent) :
    ∀ event ∈ parts.flatMap transfer.sent,
      event.Belongs transfer.target transfer.uploadId := by
  intro event member
  obtain ⟨part, -, inside⟩ := List.mem_flatMap.mp member
  simp only [sent, List.mem_cons, List.not_mem_nil, or_false] at inside
  -- The part was read, and then a request that names the upload brought it.
  rcases inside with rfl | rfl
  · exact Event.belongs_read _ _ _ _
  · exact Event.belongs_sent rfl rfl

/-- All that is tried for a part belongs to the upload. -/
theorem Transfer.belongs_stuck (transfer : Transfer) (number : Nat) (setback : Setback) :
    ∀ event ∈ transfer.stuck number setback,
      event.Belongs transfer.target transfer.uploadId := by
  -- A part may be read before its request fails, and reading belongs to any upload.
  intro event member
  cases setback with
  | unread fault =>
    obtain rfl := List.mem_singleton.mp member
    exact Event.belongs_read _ _ _ _
  | unsent body failure =>
    simp only [stuck, List.mem_cons, List.not_mem_nil, or_false] at member
    rcases member with rfl | rfl
    · exact Event.belongs_read _ _ _ _
    · exact Event.belongs_sent rfl rfl

/-- After the opening, a course does nothing at all, or all that it does belongs to the upload and
closes it. -/
theorem Job.Goes.opened {job : Job} {course : Course} {value : Except Trouble ObjectEntry}
    {trace : List Event} (goes : job.Goes course value trace) :
    ∃ answer rest, trace = job.opening answer ++ rest ∧
      ((rest = [] ∧ ∀ uploadId, answer ≠ .ok (some uploadId)) ∨
        ∃ uploadId, answer = .ok (some uploadId) ∧
          (∀ event ∈ rest, event.Belongs job.target uploadId) ∧
          Closed job.target uploadId rest) := by
  -- The cases are the ways in which a course ends.
  cases goes with
  -- Without an identifier nothing follows the opening.
  | refused failure => exact ⟨_, [], (List.append_nil _).symm, .inl ⟨rfl, by simp⟩⟩
  | unnamed => exact ⟨_, [], (List.append_nil _).symm, .inl ⟨rfl, by simp⟩⟩
  | stuck uploadId parts setback answer numbered early =>
    refine ⟨_, _, by rw [Job.begun, List.append_assoc, List.append_assoc],
      .inr ⟨uploadId, rfl, ?_, .inr ⟨answer, by simp⟩⟩⟩
    -- The parts, the one that was not sent and the last request all name the upload.
    refine List.forall_mem_append.mpr ⟨(job.transfer uploadId).belongs_sent parts, ?_⟩
    refine List.forall_mem_append.mpr ⟨(job.transfer uploadId).belongs_stuck _ setback, ?_⟩
    exact List.forall_mem_singleton.mpr (Event.belongs_sent rfl rfl)
  | completed uploadId parts etag now numbered =>
    refine ⟨_, _, by rw [Job.begun, List.append_assoc],
      .inr ⟨uploadId, rfl, ?_, .inl ⟨parts.map PartSent.listed, etag, by simp⟩⟩⟩
    -- The completing request closes the upload.
    refine List.forall_mem_append.mpr ⟨(job.transfer uploadId).belongs_sent parts, ?_⟩
    exact List.forall_mem_singleton.mpr (Event.belongs_sent rfl rfl)
  | rejected uploadId parts failure answer numbered =>
    refine ⟨_, _, by rw [Job.begun, List.append_assoc],
      .inr ⟨uploadId, rfl, ?_, .inr ⟨answer, by simp⟩⟩⟩
    -- The completing request failed, so only the last one closes the upload.
    refine List.forall_mem_append.mpr ⟨(job.transfer uploadId).belongs_sent parts, ?_⟩
    refine List.forall_mem_cons.mpr ⟨Event.belongs_sent rfl rfl, ?_⟩
    exact List.forall_mem_singleton.mpr (Event.belongs_sent rfl rfl)

/-- What every trace of an upload in parts has in common. -/
structure Tidy (target : ObjectRef) (contentType : Option String) (trace : List Event) : Prop where
  /-- An upload that was given an identifier is completed, or it was asked to be given up. -/
  closed : ∀ uploadId, .sent (.createUpload target contentType) (.ok (some uploadId)) ∈ trace →
    Closed target uploadId trace
  /-- Nothing follows the request to give the upload up, so there is one at most. -/
  abandonedLast : trace.Pairwise fun earlier _ => earlier.turn ≠ .abandoning
  /-- Nothing but the request to give the upload up follows a part that was not sent. -/
  failedOnce : trace.Pairwise fun earlier later =>
    earlier.turn = .failing → later.turn = .abandoning
  /-- All requests are about the target. -/
  about : ∀ request answer, .sent request answer ∈ trace → request.target? = some target
  /-- All requests but the creating one name the identifier that this one was answered with. -/
  identified : ∀ request answer, .sent request answer ∈ trace →
    request = .createUpload target contentType ∨
      ∃ uploadId, .sent (.createUpload target contentType) (.ok (some uploadId)) ∈ trace ∧
        request.uploadId? = some uploadId

/-- Turns that follow one another only as an ending does keep to its order. -/
theorem Job.Goes.pairwise {job : Job} {course : Course} {value : Except Trouble ObjectEntry}
    {trace : List Event} (goes : job.Goes course value trace) (order : Turn → Turn → Prop)
    (onward : ∀ turn, order .onward turn) (ending : course.ending.Pairwise order) :
    trace.Pairwise fun earlier later => order earlier.turn later.turn := by
  -- Turns that go on may stand before any others, so the ending alone matters.
  obtain ⟨before, all, turns⟩ := goes.turns
  rw [← List.pairwise_map, turns, List.pairwise_append]
  refine ⟨?_, ending, ?_⟩
  · exact List.pairwise_of_forall_mem_list fun earlier member later _ =>
      all earlier member ▸ onward later
  · exact fun earlier member later _ => all earlier member ▸ onward later

/-- The opening sends the creating request and nothing else. -/
theorem Job.mem_opening {job : Job} {opened : Except Failure (Option String)} {request : Request}
    {answer : Except Failure request.Reply} (member : .sent request answer ∈ job.opening opened) :
    request = .createUpload job.target job.contentType ∧ HEq answer opened := by
  -- The creating request is the second of the two events.
  simp only [Job.opening, List.mem_cons, List.not_mem_nil, or_false] at member
  -- The first is no request.
  rcases member with impossible | same
  · cases impossible
  · cases same
    exact ⟨rfl, HEq.rfl⟩

/-- Every course is tidy. -/
theorem Job.Goes.tidy {job : Job} {course : Course} {value : Except Trouble ObjectEntry}
    {trace : List Event} (goes : job.Goes course value trace) :
    Tidy job.target job.contentType trace := by
  -- Each of the four endings keeps to both orders.
  have abandonedLast := goes.pairwise (fun earlier _ => earlier ≠ .abandoning)
    (by simp) (by cases course <;> decide)
  have failedOnce := goes.pairwise (fun earlier later => earlier = .failing → later = .abandoning)
    (by simp) (by cases course <;> decide)
  obtain ⟨opened, rest, rfl, nothing | ⟨identifier, rfl, belongs, closed⟩⟩ := goes.opened
  · -- There is the opening only, and it gave no identifier.
    obtain ⟨rfl, unnamed⟩ := nothing
    rw [List.append_nil] at abandonedLast failedOnce ⊢
    refine ⟨?_, abandonedLast, failedOnce, ?_, ?_⟩
    · intro uploadId member
      exact absurd (eq_of_heq (Job.mem_opening member).2).symm (unnamed uploadId)
    · -- The one request there is creates the upload of the target.
      intro request answer member
      rw [(Job.mem_opening member).1]
      rfl
    · exact fun request answer member => .inl (Job.mem_opening member).1
  · refine ⟨?_, abandonedLast, failedOnce, ?_, ?_⟩
    · intro uploadId member
      rcases List.mem_append.mp member with early | late
      · -- The creating request was answered with the identifier that the rest belongs to.
        cases eq_of_heq (Job.mem_opening early).2
        rcases closed with ⟨parts, etag, completed⟩ | ⟨answer, abandoned⟩
        · exact .inl ⟨parts, etag, List.mem_append_right _ completed⟩
        · exact .inr ⟨answer, List.mem_append_right _ abandoned⟩
      · -- A creating request names no identifier, so there is none behind the opening.
        exact nomatch (belongs _ late _ _ rfl).2
    · intro request answer member
      rcases List.mem_append.mp member with early | late
      · rw [(Job.mem_opening early).1]
        rfl
      · exact (belongs _ late _ _ rfl).1
    · intro request answer member
      rcases List.mem_append.mp member with early | late
      · exact .inl (Job.mem_opening early).1
      · exact .inr ⟨identifier, List.mem_append_left _ (.tail _ (.head _)),
          (belongs _ late _ _ rfl).2⟩

namespace Client

variable {σ : Type} (client : Client σ) (state : σ) (source : Word) (target : ObjectRef)

/-- A large regular file is uploaded in parts once its size is known. -/
theorem run_putFile_inParts {size : Nat} {next : σ}
    (regular : client.machine.files.answer (.status source) state = (.ok ⟨true, size⟩, next))
    (large : client.sizing.usesParts size = true) :
    (client.putFile source target).run.run state =
      ((client.putInParts source target (client.machine.mediaType? source) size).run.run next).after
        [.read (.status source) (.ok ⟨true, size⟩)] := by
  -- The size decides, once the file was looked at.
  rw [putFile, run_bind_ok (run_read_ok client state regular)]
  simp only [if_true, large]

/-- A large regular file of less than 8 EiB goes exactly one of the courses of an upload in parts,
if its requests can be signed. It is uploaded exactly if it goes the completed one, and in every
case the requests keep to the target and the identifier of the upload and leave nothing open. -/
theorem putFile_goes_one_course (choices : List Upload.Sizing.Choice)
    (chosen : client.sizing = .ofChoices choices) (size : Nat) (small : size < 2 ^ 63)
    (large : client.sizing.usesParts size = true)
    (regular : (client.machine.files.answer (.status source) state).1 = .ok ⟨true, size⟩)
    (signed : Signed ((client.putFile source target).run.run state).events) :
    ∃ partSize count,
      client.sizing.partSizeFor size = .ok partSize ∧
      Upload.partCount size partSize = .ok count ∧
      count < 2 ^ 31 ∧
      let contentType := client.machine.mediaType? source
      let job : Job := ⟨source, target, contentType, size, partSize, count⟩
      let outcome := (client.putFile source target).run.run state
      (∃! course, job.Goes course outcome.value outcome.events) ∧
      ((∃ entry, outcome.value = .ok entry) ↔
        job.Goes .completed outcome.value outcome.events) ∧
      Tidy target contentType outcome.events := by
  -- The file is laid out, since nothing overflows.
  obtain ⟨partSize, count, laid⟩ := Upload.exists_laid choices small
  rw [← chosen] at laid
  refine ⟨partSize, count, laid.chosen, laid.counted, laid.numbered, ?_⟩
  intro contentType job outcome
  have run : outcome = _ := client.run_putFile_inParts state source target
    (Prod.ext regular rfl) large
  -- A signed upload goes one course, and no trace goes two.
  obtain ⟨course, goes⟩ : ∃ course, job.Goes course outcome.value outcome.events := by
    rw [run]
    rcases client.goes_putInParts job _ laid with goes | ⟨-, unsigned⟩
    · exact goes
    · refine absurd (fun request member => signed request ?_) unsigned
      rw [show (client.putFile source target).run.run state = _ from run]
      exact List.mem_cons_of_mem _ member
  refine ⟨⟨course, goes, fun other also => also.course_unique goes⟩, ?_, goes.tidy⟩
  -- The course that gives an entry is the completed one.
  rw [goes.exists_entry_iff]
  constructor
  · rintro rfl
    exact goes
  · exact goes.course_unique

end Client

/-- A service that takes the first part of an upload and then nothing more. -/
def unsteady : Service Unit where
  answer
    | .createUpload _ _, _ => (.ok (some "u1"), ())
    | .uploadPart _ _ number _, _ =>
      (if number = 1 then .ok (some "e1") else .error (.failed none "connection reset"), ())
    | .putObject _ _ _, _ => (.error (.failed none "connection reset"), ())
    | .completeUpload _ _ _, _ => (.error (.failed none "connection reset"), ())
    | .abortUpload _ _, _ => (.error (.failed none "connection reset"), ())
    | .listObjects _ _ _, _ => (.error (.failed none "connection reset"), ())
    | .deleteObject _, _ => (.error (.failed none "connection reset"), ())

/-- A machine on which every path leads to a file of 12 MiB of which only the size matters. A name
of its kind suggests bytes of no particular meaning. -/
def sparse : Machine Unit where
  files := ⟨fun
    | .status _, _ => (.ok ⟨true, 12582912⟩, ())
    | .contents _, _ => (.ok ByteArray.empty, ())
    | .range _ _, _ => (.ok ByteArray.empty, ())⟩
  clock _ := (.ofParts 0 0, ())
  mediaType? path := if path = .text "a.bin" then some "application/octet-stream" else none

/-- The unsteady service signs all that it is sent. -/
theorem signed_unsteady {machine : Machine Unit} {sizing : Upload.Sizing} {trace : List Event}
    (answered : Client.Answered ⟨unsteady, machine, sizing⟩ trace) : Signed trace := by
  intro request member
  -- Its answers are replies or failures of another kind.
  obtain ⟨state, answer⟩ := answered _ member
  cases request with
  | uploadPart target uploadId number body =>
    simp only [unsteady] at answer
    split at answer <;> cases answer
  | _ => cases answer

/-- An upload in parts of 5 MiB that the unsteady service does not finish. -/
theorem putFile_goes_one_course_unsteady :
    let client : Client Unit := ⟨unsteady, sparse, .ofChoices [.threshold 0, .partSize 5242880]⟩
    let outcome := (client.putFile (.text "a.bin") ⟨"bucket", "key"⟩).run.run ()
    Signed outcome.events ∧
      ∃ partSize count,
        client.sizing.partSizeFor 12582912 = .ok partSize ∧
        Upload.partCount 12582912 partSize = .ok count ∧
        count < 2 ^ 31 ∧
        let contentType := some "application/octet-stream"
        let job : Job :=
          ⟨.text "a.bin", ⟨"bucket", "key"⟩, contentType, 12582912, partSize, count⟩
        (∃! course, job.Goes course outcome.value outcome.events) ∧
        ((∃ entry, outcome.value = .ok entry) ↔
          job.Goes .completed outcome.value outcome.events) ∧
        Tidy ⟨"bucket", "key"⟩ contentType outcome.events := by
  -- Whatever this service answers, it signs.
  intro client outcome
  have signed : Signed outcome.events := signed_unsteady (Client.honest_putFile _ _ _)
  exact ⟨signed, client.putFile_goes_one_course () (.text "a.bin") ⟨"bucket", "key"⟩ _ rfl 12582912
    (by decide) (by decide) rfl signed⟩

end ObjectStorage.S3
