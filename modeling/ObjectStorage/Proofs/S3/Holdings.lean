import Mathlib.Control.Basic
import ObjectStorage.Proofs.S3.Course
import ObjectStorage.S3.Assembly

/-! A service that took the parts of a file and the request to complete the upload holds an object
with the bytes of the parts, one behind the other. -/

namespace ObjectStorage.S3

/-- The part under the number that the request carried, as a service holds it. -/
def PartSent.held (part : PartSent) : Int32 × HeldPart :=
  (Int32.ofNat part.number, ⟨part.body, part.etag⟩)

/-- The bytes of the parts, one behind the other. -/
def joined (parts : List PartSent) : ByteArray :=
  (parts.map PartSent.body).foldl (· ++ ·) ByteArray.empty

/-- Numbers that fit 32 bits keep their order in requests. -/
theorem ofNat_lt_ofNat {first second : Nat} (less : first < second) (fits : second < 2 ^ 31) :
    Int32.ofNat first < Int32.ofNat second := by
  -- Both are read back as they are, since the greater one fits.
  rw [Int32.lt_iff_toInt_lt, Int32.toInt_ofNat_of_lt (by omega), Int32.toInt_ofNat_of_lt fits]
  exact Int.ofNat_lt.mpr less

/-- Parts numbered from one on are listed in the order of their numbers. -/
theorem ascending_listed {parts : List PartSent} {count : Nat}
    (numbered : parts.map PartSent.number = List.range' 1 count) (fits : count < 2 ^ 31) :
    (parts.map PartSent.listed).Pairwise fun earlier later => earlier.number < later.number := by
  -- The order of the numbers from one on carries over to the numbers of requests.
  have ascending : (parts.map PartSent.number).Pairwise (· < ·) := by
    rw [numbered]
    exact List.pairwise_lt_range'
  rw [List.pairwise_map] at ascending ⊢
  refine ascending.imp_of_mem fun {earlier later} _ member less => ofNat_lt_ofNat less ?_
  -- The later of two numbers is one of them too, so it fits.
  have inside : later.number ∈ List.range' 1 count := numbered ▸ List.mem_map_of_mem member
  rw [List.mem_range'_1] at inside
  omega

/-- Values that are all found are collected in their order. -/
theorem mapM_eq_some {α β γ : Type} {find : β → Option γ} {name : α → β} {give : α → γ}
    {values : List α} (found : ∀ value ∈ values, find (name value) = some (give value)) :
    (values.map name).mapM find = some (values.map give) := by
  -- The values are looked up one after another, so the induction is on them.
  induction values with
  -- There is nothing to find.
  | nil => rfl
  -- The first value is found, and then the others.
  | cons value rest ih =>
    rw [List.map_cons, List.mapM_cons, found value List.mem_cons_self,
      ih fun later member => found later (List.mem_cons_of_mem _ member)]
    rfl

/-- Parts that an upload holds are joined in the order in which they are listed. -/
theorem OpenUpload.join?_eq_some {upload : OpenUpload} {parts : List PartSent}
    (ascending : (parts.map PartSent.listed).Pairwise fun earlier later =>
      earlier.number < later.number)
    (holds : ∀ part ∈ parts,
      upload.parts.lookup (Int32.ofNat part.number) = some ⟨part.body, part.etag⟩) :
    upload.join? (parts.map PartSent.listed) = some (joined parts) := by
  -- Each part is found under its number and with its tag.
  have found : (parts.map PartSent.listed).mapM (fun part =>
      ((upload.parts.lookup part.number).filter fun held => held.etag = part.etag).map (·.body))
        = some (parts.map PartSent.body) := by
    refine mapM_eq_some fun part member => ?_
    simp only [PartSent.listed, holds part member, Option.filter_some, decide_true, if_true,
      Option.map_some]
  simp only [join?, found, guard, if_pos ascending]
  rfl

/-- A part of an upload without doubled numbers is found under its number. -/
theorem lookup_held {parts : List PartSent}
    (ascending : (parts.map PartSent.listed).Pairwise fun earlier later =>
      earlier.number < later.number) {part : PartSent} (member : part ∈ parts) :
    (parts.map PartSent.held).reverse.lookup (Int32.ofNat part.number) =
      some ⟨part.body, part.etag⟩ := by
  -- The latest part stands in front, so those that were sent later are looked at before this one.
  obtain ⟨before, later, rfl⟩ := List.append_of_mem member
  refine List.lookup_eq_some_iff.mpr
    ⟨(later.map PartSent.held).reverse, (before.map PartSent.held).reverse, ?_, ?_⟩
  · simp [PartSent.held]
  · -- Only parts with greater numbers are held in front of this one.
    intro held front
    rw [List.mem_reverse] at front
    obtain ⟨other, behind, rfl⟩ := List.mem_map.mp front
    rw [List.pairwise_map] at ascending
    have less := List.rel_of_pairwise_cons (List.pairwise_append.mp ascending).2.1 behind
    exact bne_iff_ne.mpr (Int32.ne_of_lt less)

namespace Holdings

variable (holdings : Holdings)

/-- What happens in two traces happens one after the other. -/
theorem after_append (first second : List Event) :
    holdings.after (first ++ second) = (holdings.after first).after second :=
  List.foldl_append

/-- An upload that was changed is found as it is now. -/
theorem upload?_setUpload (uploadId : String) (upload : Option OpenUpload) :
    (holdings.setUpload uploadId upload).upload? uploadId = upload := if_pos rfl

/-- An object that was put in its place is found there. -/
theorem object?_setObject (target : ObjectRef) (object : Option StoredObject) :
    (holdings.setObject target object).object? target = object := if_pos rfl

/-- An upload that is open for a target can be used for it. -/
theorem openUpload?_eq {upload : OpenUpload} {uploadId : String}
    (opened : holdings.upload? uploadId = some upload) :
    holdings.openUpload? upload.target uploadId = some upload := by
  -- The target is asked for, and the upload is open for it.
  simp [openUpload?, opened]

/-- Each part that was sent is held in front of those that were sent before. -/
theorem upload?_after_sent (transfer : Transfer) (parts : List PartSent)
    {contentType : Option String} {held : List (Int32 × HeldPart)}
    (opened : holdings.upload? transfer.uploadId = some ⟨transfer.target, contentType, held⟩) :
    (holdings.after (parts.flatMap transfer.sent)).upload? transfer.uploadId =
      some ⟨transfer.target, contentType, (parts.map PartSent.held).reverse ++ held⟩ := by
  -- Reading a part changes nothing, and sending it puts it in front.
  induction parts generalizing holdings held with
  | nil => exact opened
  | cons part parts ih =>
    have usable := holdings.openUpload?_eq opened
    -- One part is put in front, and the rest is held in front of it.
    have step : holdings.after (transfer.sent part) = holdings.setUpload transfer.uploadId
        (some ⟨transfer.target, contentType, part.held :: held⟩) := by
      simp only [after, Transfer.sent, List.foldl_cons, List.foldl_nil, note, usable]
      rfl
    rw [List.flatMap_cons, after_append, step, ih _ (upload?_setUpload _ _ _)]
    simp

/-- An upload that is completed with the parts that it holds becomes an object. -/
theorem object?_after_completed {target : ObjectRef} {uploadId : String} {parts : List PartSent}
    {upload : OpenUpload} (usable : holdings.openUpload? target uploadId = some upload)
    (joins : upload.join? (parts.map PartSent.listed) = some (joined parts))
    (etag : Option String) :
    (holdings.after [.sent (.completeUpload target uploadId (parts.map PartSent.listed))
      (.ok etag)]).object? target = some ⟨joined parts, upload.contentType⟩ := by
  -- The upload is looked up and joined before it is closed.
  simp only [after, List.foldl_cons, List.foldl_nil, note, usable, joins]
  exact object?_setObject _ _ _

/-- A file that was uploaded in parts is held under its target, whatever was held before. -/
theorem object?_after_begun (job : Job) (uploadId : String) {parts : List PartSent}
    (numbered : parts.map PartSent.number = List.range' 1 job.count) (fits : job.count < 2 ^ 31)
    (etag : Option String) :
    (holdings.after (job.begun uploadId parts
      ++ [.sent (.completeUpload job.target uploadId (parts.map PartSent.listed))
          (.ok etag)])).object? job.target = some ⟨joined parts, job.contentType⟩ := by
  -- Numbers from one on ascend, so the parts are listed as the service asks for them.
  have ascending := ascending_listed numbered fits
  -- The upload is opened without parts, then all are sent, and then they are joined.
  have opened : (holdings.after (job.opening (.ok (some uploadId)))).upload? uploadId =
      some ⟨job.target, job.contentType, []⟩ := upload?_setUpload _ _ _
  have sent := (holdings.after _).upload?_after_sent (job.transfer uploadId) parts opened
  rw [List.append_nil] at sent
  rw [Job.begun, after_append, after_append]
  refine object?_after_completed _ (openUpload?_eq _ sent) ?_ etag
  exact OpenUpload.join?_eq_some ascending fun part member => lookup_held ascending member

end Holdings

end ObjectStorage.S3
