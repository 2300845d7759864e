import ObjectStorage.Proofs.S3.Course

/-! Every file is laid out within the limits of the service as far as its size allows, and its parts
are sent under the numbers of the layout, although requests carry numbers of 32 bits. -/

namespace ObjectStorage

namespace Upload

open Number

/-- A layout that keeps to the limits of the service, as far as the size of the file allows. -/
structure Limited (sizing : Sizing) (fileSize partSize count : Nat) : Prop where
  chosen : sizing.partSizeFor fileSize = .ok partSize
  counted : partCount fileSize partSize = .ok count
  least : minPartSize ≤ sizing.partSize
  grown : sizing.partSize ≤ partSize
  most : partSize ≤ maxPartSize
  /-- The parts are few enough just if parts of the greatest size can hold the file. -/
  few : count ≤ maxParts ↔ fileSize ≤ maxParts * maxPartSize
  numbered : fileSize < 2 ^ 63 → count < 2 ^ 31
  ranged : fileSize < 2 ^ 63 → ∀ number, 1 ≤ number → number ≤ count →
    ∃ range, partRange number partSize fileSize = .ok range

/-- Every file is laid out within the limits, whatever sizing was chosen, and nothing overflows
where it has less than 8 EiB. -/
theorem exists_limited (choices : List Sizing.Choice) (fileSize : Nat) :
    ∃ partSize count, Limited (.ofChoices choices) fileSize partSize count ∧
      (fileSize < 2 ^ 63 → Laid (.ofChoices choices) fileSize partSize count) := by
  -- The part size comes from the sizing, and the count from the part size.
  have wished := Sizing.acceptable_ofChoices choices
  obtain ⟨partSize, chosen, acceptable, grown, few⟩ := Sizing.partSizeFor_spec wished fileSize
  have counted : partCount fileSize partSize = .ok (ceilDiv fileSize partSize) :=
    checkedCeilDiv_eq acceptable.positive
  -- A file of this size has a layout, and that can only be this one.
  have laid : fileSize < 2 ^ 63 →
      Laid (.ofChoices choices) fileSize partSize (ceilDiv fileSize partSize) := by
    intro small
    obtain ⟨size, count, laid⟩ := exists_laid choices small
    -- There is one layout only, since both sizes are calculated.
    obtain rfl : size = partSize := Except.ok.inj (laid.chosen.symm.trans chosen)
    obtain rfl : count = ceilDiv fileSize size := Except.ok.inj (laid.counted.symm.trans counted)
    exact laid
  refine ⟨partSize, ceilDiv fileSize partSize, ?_, laid⟩
  constructor
  case chosen => exact chosen
  case counted => exact counted
  case least => exact wished.least
  case grown => exact grown
  case most => exact acceptable.most
  case few =>
    constructor
    · -- Few parts of this size are few parts of the greatest size too.
      intro enough
      calc fileSize ≤ maxParts * partSize := (ceilDiv_le_iff acceptable.positive).mp enough
        _ ≤ maxParts * maxPartSize := Nat.mul_le_mul_left _ acceptable.most
    · -- Either there are few anyway, or the parts have the greatest size already.
      intro fits
      rcases few with enough | rfl
      · exact enough
      · exact (ceilDiv_le_iff acceptable.positive).mpr fits
  case numbered => exact fun small => (laid small).numbered
  case ranged =>
    intro small number first last
    exact ⟨_, (laid small).ranges number first last⟩

end Upload

namespace S3

/-- The number that an event sends a part under, if it does. -/
def Event.partNumber? : Event → Option Int
  | .sent (.uploadPart _ _ number _) _ => some number.toInt
  | _ => none

/-- The numbers that a trace sends parts under, in order. -/
def partNumbers (trace : List Event) : List Int := trace.filterMap Event.partNumber?

/-- The numbers from one up to a count. -/
def numbersUpTo (count : Nat) : List Int := (List.range' 1 count).map Int.ofNat

/-- The numbers of two traces come one after the other. -/
theorem partNumbers_append (earlier later : List Event) :
    partNumbers (earlier ++ later) = partNumbers earlier ++ partNumbers later :=
  List.filterMap_append

/-- Numbers that are small enough stay what they are when requests carry them. -/
theorem map_toInt_range' {count : Nat} (small : count < 2 ^ 31) :
    (List.range' 1 count).map (fun number => (Int32.ofNat number).toInt) = numbersUpTo count := by
  -- None of the numbers is greater than the count.
  refine List.map_congr_left fun number member => ?_
  rw [List.mem_range'_1] at member
  exact Int32.toInt_ofNat_of_lt (by omega)

/-- Parts are sent under the numbers that they have, as far as requests can carry these. -/
theorem Transfer.partNumbers_sent (transfer : Transfer) (parts : List PartSent) :
    partNumbers (parts.flatMap transfer.sent) =
      (parts.map PartSent.number).map fun number => (Int32.ofNat number).toInt := by
  -- The parts were sent one after another, so the induction is on the parts.
  induction parts with
  | nil => rfl
  | cons part parts ih =>
    -- Of the two events of a part the second one sends it.
    rw [List.flatMap_cons, partNumbers_append, ih]
    rfl

/-- Among what is done for parts that are sent there is no completing request. -/
theorem Transfer.completing_notMem_sent (transfer : Transfer) (parts : List PartSent)
    (target : ObjectRef) (uploadId : String) (listed : List SentPart)
    (answer : Except Failure (Request.completeUpload target uploadId listed).Reply) :
    .sent (.completeUpload target uploadId listed) answer ∉ parts.flatMap transfer.sent := by
  -- For a part it is read and sent, and neither completes the upload.
  intro member
  obtain ⟨part, -, inside⟩ := List.mem_flatMap.mp member
  simp [Transfer.sent] at inside

/-- A part that is not sent was tried under its number, or not at all. -/
theorem Transfer.partNumbers_stuck (transfer : Transfer) (number : Nat) (setback : Setback) :
    partNumbers (transfer.stuck number setback) = [] ∨
      partNumbers (transfer.stuck number setback) = [(Int32.ofNat number).toInt] := by
  -- If the file could not be read, no request was made.
  cases setback with
  | unread fault => exact .inl rfl
  | unsent body failure => exact .inr rfl

/-- Whether an event is a read or a request that failed. -/
def Event.failed : Event → Bool
  | .read _ (.error _) => true
  | .sent _ (.error _) => true
  | _ => false

/-- Where a part is not sent, the read or the request failed. -/
theorem Transfer.exists_failed_stuck (transfer : Transfer) (number : Nat) (setback : Setback) :
    ∃ event ∈ transfer.stuck number setback, event.failed = true := by
  -- The failure is the last event of the part, whatever came before it.
  cases setback with
  | unread fault => exact ⟨_, List.mem_singleton_self _, rfl⟩
  | unsent body failure => exact ⟨_, .tail _ (List.mem_singleton_self _), rfl⟩

/-- The parts of an upload are sent under consecutive numbers from one on, and the completing
request names all of them. -/
structure Numbered (count : Nat) (value : Except Trouble (Option String)) (trace : List Event) :
    Prop where
  sent : ∃ last, last ≤ count ∧ partNumbers trace = numbersUpTo last
  /-- Only a read or a request that fails keeps parts from being sent. -/
  unhindered : (∀ event ∈ trace, event.failed = false) → partNumbers trace = numbersUpTo count
  /-- An upload that succeeds has sent all parts. -/
  all : ∀ etag, value = .ok etag → partNumbers trace = numbersUpTo count
  listed : ∀ target uploadId parts answer,
    .sent (.completeUpload target uploadId parts) answer ∈ trace →
      partNumbers trace = numbersUpTo count ∧
        parts.map (fun part => part.number.toInt) = numbersUpTo count

/-- Parts that were all sent are numbered, whatever comes of the completing request. -/
theorem Transfer.numbered_sent (transfer : Transfer) {parts : List PartSent} {count : Nat}
    (small : count < 2 ^ 31) (ordered : parts.map PartSent.number = List.range' 1 count)
    (answer : Except Failure (Option String)) (value : Except Trouble (Option String)) :
    Numbered count value (parts.flatMap transfer.sent ++
      [.sent (.completeUpload transfer.target transfer.uploadId (parts.map PartSent.listed))
        answer]) := by
  -- The completing request carries no number, so the numbers are those of the parts.
  have sent : partNumbers (parts.flatMap transfer.sent ++
      [.sent (.completeUpload transfer.target transfer.uploadId (parts.map PartSent.listed))
        answer]) = numbersUpTo count := by
    rw [partNumbers_append, transfer.partNumbers_sent, ordered, map_toInt_range' small]
    exact List.append_nil _
  refine ⟨⟨count, Nat.le_refl _, sent⟩, fun _ => sent, fun _ _ => sent, ?_⟩
  intro target uploadId listed other member
  refine ⟨sent, ?_⟩
  rcases List.mem_append.mp member with among | latest
  · exact absurd among (transfer.completing_notMem_sent parts _ _ _ _)
  · -- The request names each part by the number that it was sent under.
    cases List.mem_singleton.mp latest
    rw [List.map_map, ← map_toInt_range' small, ← ordered, List.map_map]
    rfl

/-- Parts that were sent up to a setback are numbered. -/
theorem Transfer.numbered_stuck (transfer : Transfer) {parts : List PartSent} {count : Nat}
    (small : count < 2 ^ 31) (ordered : parts.map PartSent.number = List.range' 1 parts.length)
    (early : parts.length < count) (setback : Setback) (trouble : Trouble) :
    Numbered count (.error trouble)
      (parts.flatMap transfer.sent ++ transfer.stuck (parts.length + 1) setback) := by
  -- The parts before the setback were all sent, under the numbers from one on.
  have before : partNumbers (parts.flatMap transfer.sent) = numbersUpTo parts.length := by
    rw [transfer.partNumbers_sent, ordered, map_toInt_range' (by omega)]
  refine ⟨?_, ?_, nofun, ?_⟩
  · rw [partNumbers_append, before]
    rcases transfer.partNumbers_stuck (parts.length + 1) setback with none | one
    · exact ⟨parts.length, Nat.le_of_lt early, by rw [none, List.append_nil]⟩
    · -- The part that was tried has the next number.
      refine ⟨parts.length + 1, early, ?_⟩
      have next : (Int32.ofNat (parts.length + 1)).toInt = Int.ofNat (parts.length + 1) :=
        Int32.toInt_ofNat_of_lt (by omega)
      rw [one, next, numbersUpTo, numbersUpTo, List.range'_1_concat, List.map_append,
        Nat.add_comm 1]
      rfl
  · -- The setback is a failure, so this trace is not one where nothing fails.
    intro fine
    obtain ⟨event, inside, failed⟩ := transfer.exists_failed_stuck (parts.length + 1) setback
    exact absurd failed (by simp [fine event (List.mem_append_right _ inside)])
  · intro target uploadId listed answer member
    -- Neither the parts that were sent nor the one that was not complete the upload.
    rcases List.mem_append.mp member with among | latest
    · exact absurd among (transfer.completing_notMem_sent parts _ _ _ _)
    · cases setback <;> simp [Transfer.stuck] at latest

/-- Every file is laid out within the limits of the service as far as its size allows, and where it
has less than 8 EiB, its parts are sent under exactly the numbers from one up to their count, unless
a failure keeps the upload from going so far. -/
theorem layout_keeps_limits (choices : List Upload.Sizing.Choice) (fileSize : Nat) :
    ∃ partSize count, Upload.Limited (.ofChoices choices) fileSize partSize count ∧
      (fileSize < 2 ^ 63 → ∀ {σ : Type} (service : Service σ) (machine : Machine σ) (state : σ)
        (source : Word) (target : ObjectRef) (uploadId : String),
        let client : Client σ := ⟨service, machine, .ofChoices choices⟩
        let outcome := (client.sendAndComplete source target uploadId fileSize).run.run state
        Numbered count outcome.value outcome.events) := by
  -- The layout is known; what is left is how the parts are sent.
  obtain ⟨partSize, count, limited, laid⟩ := Upload.exists_limited choices fileSize
  refine ⟨partSize, count, limited, ?_⟩
  intro small σ service machine state source target uploadId client outcome
  let job : Job := ⟨source, target, none, fileSize, partSize, count⟩
  -- The parts are sent up to the first that is not, and the completing request follows the last.
  rcases client.run_sendAndComplete job state (laid small) uploadId with
    ⟨parts, etag, next, ordered, done⟩ | ⟨parts, failure, next, ordered, done⟩ |
    ⟨parts, setback, next, ordered, early, done⟩
  · have run : outcome = _ := done
    rw [run]
    exact (job.transfer uploadId).numbered_sent (limited.numbered small) ordered _ _
  · have run : outcome = _ := done
    rw [run]
    exact (job.transfer uploadId).numbered_sent (limited.numbered small) ordered _ _
  · have run : outcome = _ := done
    rw [run]
    exact (job.transfer uploadId).numbered_stuck (limited.numbered small) ordered early setback _

end S3

end ObjectStorage
