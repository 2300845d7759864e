import ObjectStorage.MemoryStore
import ObjectStorage.Proofs.S3.Holdings

/-! What an upload stores depends on the file alone, not on how the file is sent. -/

namespace ObjectStorage

/-- A machine on which a path leads to a file that nobody changes. A question about the file may
still go unanswered. -/
structure Machine.Holds {σ : Type} (machine : Machine σ) (source : Word) (bytes : ByteArray) :
    Prop where
  status : ∀ state found, (machine.files.answer (.status source) state).1 = .ok found →
    FileStatus.size found = bytes.size
  contents : ∀ state data, (machine.files.answer (.contents source) state).1 = .ok data →
    data = bytes
  /-- Only ranges that lie within the file have bytes. -/
  range : ∀ start stop state data, start ≤ stop → stop ≤ bytes.size →
    (machine.files.answer (.range source ⟨start, stop⟩) state).1 = .ok data →
    data = bytes.extract start stop

/-- Files that nobody changes are as they were found. -/
theorem Snapshot.holds {σ : Type} {files : Snapshot} {source : Word} {bytes : ByteArray}
    (found : files source = .ok (.file bytes)) (now : Timestamp)
    (mediaType? : Word → Option String) :
    (files.machine now mediaType? : Machine σ).Holds source bytes where
  -- All three questions are answered from the same bytes.
  status := by
    intro state found' answer
    simp only [machine, Snapshot.answer, found, Except.map] at answer
    cases answer
    rfl
  contents := by
    intro state data answer
    simp only [machine, Snapshot.answer, Snapshot.contents, found] at answer
    cases answer
    rfl
  range := by
    intro start stop state data _ _ answer
    simp only [machine, Snapshot.answer, Snapshot.contents, found, Except.map] at answer
    cases answer
    rfl

namespace S3

/-- The requests of a trace. -/
def requests (trace : List Event) : List Request :=
  trace.filterMap fun
    | .sent request _ => some request
    | _ => none

/-- The request that sends a part. -/
def Transfer.request (transfer : Transfer) (part : PartSent) : Request :=
  .uploadPart transfer.target transfer.uploadId (Int32.ofNat part.number) part.body

/-- The requests that bring the bytes of a file to a target. -/
inductive Delivers (sizing : Upload.Sizing) (target : ObjectRef) (contentType : Option String)
    (bytes : ByteArray) : List Request → Prop
  /-- A small file is one request. -/
  | inOnePiece (small : bytes.size < sizing.threshold) :
    Delivers sizing target contentType bytes [.putObject target contentType bytes]
  /-- The parts of a large file are listed in the order of their numbers, and in that order their
  bytes are those of the file. -/
  | inParts (large : sizing.threshold ≤ bytes.size) (transfer : Transfer) (parts : List PartSent)
    (about : transfer.target = target)
    (numbered : parts.map PartSent.number = List.range' 1 parts.length)
    (fits : parts.length < 2 ^ 31) (whole : joined parts = bytes) :
    Delivers sizing target contentType bytes
      (.createUpload target contentType :: parts.map transfer.request
        ++ [.completeUpload target transfer.uploadId (parts.map PartSent.listed)])

/-- What an upload that succeeded did: it delivered the file, so that the service holds it now
whatever it held before, and its entry tells of the file. -/
structure Delivered (sizing : Upload.Sizing) (target : ObjectRef) (contentType : Option String)
    (bytes : ByteArray) (trace : List Event) (entry : ObjectEntry) : Prop where
  delivers : Delivers sizing target contentType bytes (requests trace)
  stored : ∀ holdings : Holdings,
    (holdings.after trace).object? target = some ⟨bytes, contentType⟩
  key : entry.key = target.key
  size : entry.sizeBytes = some (bytes.size : Int)

/-- The requests of two traces come one after the other. -/
theorem requests_append (first second : List Event) :
    requests (first ++ second) = requests first ++ requests second :=
  List.filterMap_append

/-- The requests of the parts that were sent. -/
theorem Transfer.requests_sent (transfer : Transfer) (parts : List PartSent) :
    requests (parts.flatMap transfer.sent) = parts.map transfer.request := by
  -- The parts were sent one after another, so the induction is on the parts.
  induction parts with
  | nil => rfl
  -- Reading is no request, so each part leaves one.
  | cons part parts ih =>
    rw [List.flatMap_cons, requests_append, ih]
    rfl

/-- The requests of an upload that was completed. -/
theorem Job.requests_completed (job : Job) (uploadId : String) (parts : List PartSent)
    (etag : Option String) :
    requests (job.begun uploadId parts
        ++ [.sent (.completeUpload job.target uploadId (parts.map PartSent.listed)) (.ok etag)]) =
      .createUpload job.target job.contentType
        :: parts.map (job.transfer uploadId).request
        ++ [.completeUpload job.target uploadId (parts.map PartSent.listed)] := by
  -- The opening and the completing request stand around those of the parts.
  rw [Job.begun, requests_append, requests_append, Transfer.requests_sent]
  rfl

namespace Client

variable {σ : Type} {client : Client σ} {state : σ} {source : Word} {target : ObjectRef}
  {contentType : Option String} {bytes : ByteArray} {entry : ObjectEntry}

/-- The parts that were read from a file that nobody changes are the file, if they are all that its
layout has. -/
theorem joined_eq {job : Job} (holds : client.machine.Holds job.source bytes)
    (sized : job.size = bytes.size)
    (laid : Upload.Laid client.sizing job.size job.partSize job.count) {trace : List Event}
    (answered : client.Answered trace) {uploadId : String} {parts : List PartSent}
    (numbered : parts.map PartSent.number = List.range' 1 job.count)
    (sent : ∀ event ∈ parts.flatMap (job.transfer uploadId).sent, event ∈ trace) :
    joined parts = bytes := by
  -- Each part was read where the layout puts it.
  have bodies : parts.map PartSent.body = (parts.map PartSent.number).map fun number =>
      bytes.extract ((number - 1) * job.partSize) (min (number * job.partSize) bytes.size) := by
    rw [← sized]
    rw [List.map_map]
    refine List.map_congr_left fun part member => ?_
    -- The trace tells what the machine answered for this part.
    obtain ⟨asked, answer⟩ := answered _
      (sent _ (List.mem_flatMap.mpr ⟨part, member, List.mem_cons_self⟩))
    have inside : part.number ∈ List.range' 1 job.count := numbered ▸ List.mem_map_of_mem member
    rw [List.mem_range'_1] at inside
    -- The part begins within the file, so its range lies within it.
    have reached := (laid.reached (part.number - 1)).mp (by omega)
    have onward : (part.number - 1) * job.partSize ≤ part.number * job.partSize :=
      Nat.mul_le_mul_right _ (Nat.sub_le _ _)
    exact holds.range _ _ asked part.body (by omega) (sized ▸ Nat.min_le_right _ _) answer
  -- The last part ends where the file ends.
  have covered : bytes.size ≤ job.count * job.partSize := sized ▸
    Nat.le_of_not_lt fun short => Nat.lt_irrefl _ ((laid.reached job.count).mpr short)
  rw [joined, bodies, numbered, Upload.joined_ranges, Nat.min_eq_right covered,
    ByteArray.extract_zero_size]

/-- An upload in parts that gave an entry delivered the file. -/
theorem delivered_inParts {job : Job} (holds : client.machine.Holds job.source bytes)
    (sized : job.size = bytes.size)
    (laid : Upload.Laid client.sizing job.size job.partSize job.count)
    (large : client.sizing.threshold ≤ bytes.size) {trace : List Event}
    (answered : client.Answered trace) {course : Course} {value : Except Trouble ObjectEntry}
    (goes : job.Goes course value trace) (stored : value = .ok entry) :
    Delivered client.sizing job.target job.contentType bytes trace entry := by
  subst stored
  -- No course but the completed one gives an entry.
  cases goes with
  | completed uploadId parts etag now numbered =>
    have whole : joined parts = bytes :=
      joined_eq holds sized laid answered numbered fun event inside =>
        List.mem_append_left _ (List.mem_append_right _ inside)
    have length : parts.length = job.count := by simpa using congrArg List.length numbered
    -- The same parts are what was sent and what the service joined.
    refine ⟨?_, fun holdings => ?_, rfl, congrArg (fun size : Nat => some (size : Int)) sized⟩
    · -- The requests are those of the parts, with one before and one behind them.
      rw [Job.requests_completed]
      exact .inParts large (job.transfer uploadId) parts rfl (by rw [numbered, length])
        (length ▸ laid.numbered) whole
    · rw [← whole]
      exact holdings.object?_after_begun job uploadId numbered laid.numbered etag

/-- An upload in one piece that gave an entry delivered the file. -/
theorem delivered_inOnePiece (holds : client.machine.Holds source bytes)
    (small : bytes.size < client.sizing.threshold) {next : σ}
    (stored : ((client.putInOnePiece source target contentType bytes.size).run.run next).value =
      .ok entry) :
    Delivered client.sizing target contentType bytes
      (.read (.status source) (.ok ⟨true, bytes.size⟩) ::
        ((client.putInOnePiece source target contentType bytes.size).run.run next).events)
      entry := by
  -- The file was read, then it was sent, and nothing else was done.
  obtain ⟨body, afterRead, events, read, run, sending⟩ := exists_of_run_bind_ok stored
  obtain ⟨rfl, answer⟩ := client.events_of_run_read_ok _ read
  obtain rfl : body = bytes := holds.contents next body (by rw [answer])
  obtain ⟨etag, last, events, sent, ran, ending⟩ := exists_of_run_bind_ok sending
  obtain rfl := client.events_of_run_send_ok _ sent
  -- Looking at the time always ends well.
  cases ending
  rw [show (client.putInOnePiece source target contentType body.size).run.run next = _ from run,
    ran]
  exact ⟨.inOnePiece small, fun holdings => Holdings.object?_setObject _ _ _, rfl, rfl⟩

/-- An upload that succeeded began with a look at a regular file, whose size decided how it was
sent. -/
theorem exists_of_run_putFile_ok
    (stored : ((client.putFile source target).run.run state).value = .ok entry) :
    ∃ size next,
      (client.machine.files.answer (.status source) state).1 = .ok ⟨true, size⟩ ∧
      (client.putFile source target).run.run state =
        ((if client.sizing.usesParts size then
            client.putInParts source target (client.machine.mediaType? source) size
          else client.putInOnePiece source target (client.machine.mediaType? source)
            size).run.run next).after
            [.read (.status source) (.ok ⟨true, size⟩)] := by
  -- What is not a regular file gives no entry.
  obtain ⟨⟨regular, size⟩, next, events, read, run, sending⟩ := exists_of_run_bind_ok stored
  obtain ⟨rfl, answer⟩ := client.events_of_run_read_ok _ read
  cases regular with
  | false => exact nomatch sending
  | true => exact ⟨size, next, by rw [answer], run⟩

/-- An upload that succeeded delivered the file, whatever sizing was chosen. -/
theorem delivered_putFile {choices : List Upload.Sizing.Choice}
    (chosen : client.sizing = .ofChoices choices) (small : bytes.size < 2 ^ 63)
    (holds : client.machine.Holds source bytes)
    (stored : ((client.putFile source target).run.run state).value = .ok entry) :
    Delivered client.sizing target (client.machine.mediaType? source) bytes
      ((client.putFile source target).run.run state).events entry := by
  -- What the machine said of the file is what the file is.
  have answered : client.Answered ((client.putFile source target).run.run state).events :=
    honest_putFile source target state
  obtain ⟨size, next, answer, run⟩ := exists_of_run_putFile_ok stored
  obtain rfl : size = bytes.size := holds.status state _ answer
  rw [run] at answered stored ⊢
  by_cases large : client.sizing.threshold ≤ bytes.size
  · -- A large file goes a course that gives an entry, and there is one.
    simp only [Upload.Sizing.usesParts, large, decide_true, if_true] at answered stored ⊢
    obtain ⟨partSize, count, laid⟩ := Upload.exists_laid choices small
    rw [← chosen] at laid
    rcases client.goes_putInParts ⟨source, target, _, bytes.size, partSize, count⟩ next laid with
      ⟨course, goes⟩ | ⟨fault, -⟩
    · exact delivered_inParts holds rfl laid large answered goes stored
    · exact nomatch fault.symm.trans stored
  · -- A small file is sent at once.
    simp only [Upload.Sizing.usesParts, large, decide_false, Bool.false_eq_true, if_false]
      at stored ⊢
    exact delivered_inOnePiece holds (Nat.lt_of_not_le large) stored

/-- An upload that succeeded: of a file that nobody changes and whose path suggests a media type, or
none, by a client whose sizing was chosen in any way. -/
structure Uploads (client : Client σ) (state : σ) (source : Word) (target : ObjectRef)
    (contentType : Option String) (bytes : ByteArray) (entry : ObjectEntry) : Prop where
  chosen : ∃ choices, client.sizing = .ofChoices choices
  holds : client.machine.Holds source bytes
  suggested : client.machine.mediaType? source = contentType
  succeeded : ((client.putFile source target).run.run state).value = .ok entry

/-- An upload that succeeded delivered the file. -/
theorem Uploads.delivered (uploads : Uploads client state source target contentType bytes entry)
    (small : bytes.size < 2 ^ 63) :
    Delivered client.sizing target contentType bytes
      ((client.putFile source target).run.run state).events entry := by
  -- What the path suggests is what the requests carry.
  obtain ⟨choices, chosen⟩ := uploads.chosen
  rw [← uploads.suggested]
  exact delivered_putFile chosen small uploads.holds uploads.succeeded

end Client

end S3

/-- A file that nobody changes is stored in memory as it is, if it is stored at all. -/
theorem MemoryStore.get?_after_putFile {σ : Type} {machine : Machine σ} {source : Word}
    {bytes : ByteArray} (holds : machine.Holds source bytes) {objects : MemoryStore} {outside : σ}
    {target : ObjectRef} {entry : ObjectEntry}
    (stored : ((store machine).answer (.putFile source target) (objects, outside)).1 = .ok entry) :
    ((store machine).answer (.putFile source target) (objects, outside)).2.1.get? target =
        some bytes ∧
      entry.key = target.key ∧ entry.sizeBytes = some (bytes.size : Int) := by
  -- The machine was asked for the file, and it answered with its bytes or with a fault.
  cases read : machine.files.answer (.contents source) outside with
  | mk answer next =>
    cases answer with
    | error fault =>
      -- An upload that could not be read gave no entry.
      rw [answer_putFile_error read] at stored
      exact nomatch stored
    | ok data =>
      -- What was read are the bytes of the file, and they were stored.
      obtain rfl : data = bytes := holds.contents outside data (by rw [read])
      rw [answer_putFile_ok read] at stored ⊢
      cases stored
      exact ⟨(get?_insert _ _ _ _).trans (if_pos rfl), rfl, rfl⟩

namespace S3

/-- Two uploads of the same file that succeed, under any two sizings, leave the same object under
their target, with the bytes of the file, the media type that its path suggests and no byte missing,
repeated or moved. It holds what the store in memory keeps for the file, and all entries tell the
same key and size. -/
theorem putFile_stores_same_object {σ τ υ : Type} {source : Word} {target : ObjectRef}
    {contentType : Option String} {bytes : ByteArray} (small : bytes.size < 2 ^ 63)
    {first : Client σ} {firstState : σ} {firstEntry : ObjectEntry}
    (one : first.Uploads firstState source target contentType bytes firstEntry)
    {second : Client τ} {secondState : τ} {secondEntry : ObjectEntry}
    (other : second.Uploads secondState source target contentType bytes secondEntry)
    {machine : Machine υ} (holds : machine.Holds source bytes)
    {objects : MemoryStore} {outside : υ} {memoryEntry : ObjectEntry}
    (kept : ((MemoryStore.store machine).answer (.putFile source target) (objects, outside)).1 =
      .ok memoryEntry) :
    let firstTrace := ((first.putFile source target).run.run firstState).events
    let secondTrace := ((second.putFile source target).run.run secondState).events
    let memory :=
      ((MemoryStore.store machine).answer (.putFile source target) (objects, outside)).2.1
    Delivered first.sizing target contentType bytes firstTrace firstEntry ∧
      Delivered second.sizing target contentType bytes secondTrace secondEntry ∧
      (∀ before before' : Holdings,
        (before.after firstTrace).object? target = (before'.after secondTrace).object? target ∧
        ((before.after firstTrace).object? target).map StoredObject.body = memory.get? target) ∧
      memoryEntry.key = target.key ∧ memoryEntry.sizeBytes = some (bytes.size : Int) := by
  intro firstTrace secondTrace memory
  -- Each upload delivered the file by itself, so they agree with one another.
  have delivered := one.delivered small
  have delivered' := other.delivered small
  obtain ⟨inMemory, key, size⟩ := MemoryStore.get?_after_putFile holds kept
  refine ⟨delivered, delivered', fun before before' => ⟨?_, ?_⟩, key, size⟩
  · -- Both hold the bytes of the file with the same media type.
    rw [delivered.stored before, delivered'.stored before']
  · rw [delivered.stored before, show memory.get? target = some bytes from inMemory]
    rfl

/-- A service that takes everything. -/
def willing : Service Unit where
  answer
    | .putObject _ _ _, _ => (.ok (some "e1"), ())
    | .createUpload _ _, _ => (.ok (some "u1"), ())
    | .uploadPart _ _ _ _, _ => (.ok (some "e1"), ())
    | .completeUpload _ _ _, _ => (.ok (some "e1-1"), ())
    | .abortUpload _ _, _ => (.ok (), ())
    | .listObjects _ _ _, _ => (.ok {}, ())
    | .deleteObject _, _ => (.ok (), ())

/-- A file of 6 000 000 bytes, which is longer than one part has to be. -/
def longNote : ByteArray := ⟨Array.replicate 6000000 104⟩

/-- The long file has the size that it was made with. -/
theorem size_longNote : longNote.size = 6000000 := Array.size_replicate

/-- A machine on which every path leads to the long file. A name of its kind suggests plain text. -/
def notes : Machine Unit where
  files := ⟨fun
    | .status _, _ => (.ok ⟨true, 6000000⟩, ())
    | .contents _, _ => (.ok longNote, ())
    | .range _ range, _ => (.ok (longNote.extract range.start range.stop), ())⟩
  clock _ := (.ofParts 0 0, ())
  mediaType? path := if path = .text "a.txt" then some "text/plain" else none

/-- The machine has the long file, although it looks the size up instead of counting. -/
theorem holds_notes (source : Word) : notes.Holds source longNote where
  -- The size that is looked up is the number of the bytes.
  status := by
    intro state found answer
    cases answer
    exact size_longNote.symm
  contents := by
    intro state data answer
    cases answer
    rfl
  range := by
    intro start stop state data _ _ answer
    cases answer
    rfl

/-- A client that sends the file to that service in the way that choices lead to. -/
def sender (choices : List Upload.Sizing.Choice) : Client Unit :=
  ⟨willing, notes, .ofChoices choices⟩

/-- The upload of the long file, in one piece by default. -/
theorem uploads_sender :
    (sender []).Uploads () (.text "a.txt") ⟨"bucket", "key"⟩ (some "text/plain") longNote
      (uploaded ⟨"bucket", "key"⟩ 6000000 (some "e1") (.ofParts 0 0)) :=
  ⟨⟨_, rfl⟩, holds_notes _, rfl, rfl⟩

/-- The upload of the long file, in parts by choice. -/
theorem uploads_sender_parted :
    (sender [.partSize 1, .threshold 0]).Uploads () (.text "a.txt") ⟨"bucket", "key"⟩
      (some "text/plain") longNote
      (uploaded ⟨"bucket", "key"⟩ 6000000 (some "e1-1") (.ofParts 0 0)) :=
  ⟨⟨_, rfl⟩, holds_notes _, rfl, rfl⟩

/-- A file of 6 000 000 bytes that is sent in one piece, in two parts and to the store in memory. -/
theorem putFile_stores_same_object_notes :
    let target : ObjectRef := ⟨"bucket", "key"⟩
    let whole := (((sender []).putFile (.text "a.txt") target).run.run ()).events
    let parted := (((sender [.partSize 1, .threshold 0]).putFile (.text "a.txt")
      target).run.run ()).events
    let files : Machine Unit := Snapshot.machine (fun _ => .ok (.file longNote)) (.ofParts 0 0)
    let memory := ((MemoryStore.store files).answer (.putFile (.text "a.txt") target)
      (MemoryStore.empty, ())).2.1
    (requests whole).length = 1 ∧ (requests parted).length = 4 ∧
      Delivered (sender []).sizing target (some "text/plain") longNote whole
        (uploaded target 6000000 (some "e1") (.ofParts 0 0)) ∧
      Delivered (sender [.partSize 1, .threshold 0]).sizing target (some "text/plain") longNote
        parted (uploaded target 6000000 (some "e1-1") (.ofParts 0 0)) ∧
      ∀ before before' : Holdings,
        (before.after whole).object? target = (before'.after parted).object? target ∧
        ((before.after whole).object? target).map StoredObject.body = memory.get? target := by
  -- Neither machine ever changes the file.
  intro target whole parted files memory
  have holds : files.Holds (.text "a.txt") longNote := Snapshot.holds rfl _ _
  have kept : ((MemoryStore.store files).answer (.putFile (.text "a.txt") target)
      (MemoryStore.empty, ())).1 = .ok (MemoryStore.uploaded target longNote (.ofParts 0 0)) := rfl
  have small : longNote.size < 2 ^ 63 := by
    rw [size_longNote]
    decide
  obtain ⟨delivered, delivered', same, -⟩ := putFile_stores_same_object small
    uploads_sender uploads_sender_parted holds kept
  -- The parted upload is created, takes two parts and is completed.
  exact ⟨rfl, rfl, delivered, delivered', same⟩

end S3

end ObjectStorage
