import Mathlib.Data.List.Forall2
import ObjectStorage.Proofs.Json.Lines
import ObjectStorage.Proofs.Listing.Consumer
import ObjectStorage.Proofs.Listing.Offered
import ObjectStorage.Proofs.Text.Lines
import ObjectStorage.Proofs.Timestamp.Reader

/-! The output of a listing is read back: in JSON each entry from its line, and otherwise each key,
as long as no key has a newline in it. -/

namespace ObjectStorage

namespace Json

/-- The text that a value is. -/
def string? : Json → Option String
  | .string value => some value
  | _ => none

/-- The whole number that a value is. -/
def number? : Json → Option Int
  | .number value => some value
  | _ => none

/-- The timestamp that the text of a value is. -/
def timestamp? (value : Json) : Option Timestamp :=
  value.string?.bind fun text => Timestamp.ofText? text.toList

/-- A timestamp is read back from a string of its text. -/
theorem timestamp?_text (time : Timestamp) : timestamp? (.string time.text) = some time := by
  -- The text of a timestamp is read back in a string as anywhere.
  rw [timestamp?, string?, Option.bind_some, Timestamp.ofText?_text]

end Json

namespace ObjectEntry

/-- The value of the field with a name, unless it is absent. -/
def field? (entry : ObjectEntry) (name : String) : Option Json :=
  if name = "key" then some (.string entry.key)
  else if name = "size_bytes" then entry.sizeBytes.map .number
  else if name = "size_human" then entry.sizeHuman.map .string
  else if name = "last_modified" then entry.lastModified.map fun time => .string time.text
  else if name = "etag" then entry.etag.map .string
  else none

/-- Whether a line is an object that has all fields of an entry that are present, each once, and
nothing else. -/
def ToldBy (entry : ObjectEntry) (line : String) : Prop :=
  ∃ members, Json.parse? line.toList = some (.object members) ∧
    (members.map Prod.fst).Nodup ∧ ∀ name, members.lookup name = entry.field? name

/-- The entry that the members of an object tell of. -/
def ofMembers? (members : List (String × Json)) : Option ObjectEntry := do
  let key ← (← members.lookup "key").string?
  return {
    key
    sizeBytes := (members.lookup "size_bytes").bind Json.number?
    sizeHuman := (members.lookup "size_human").bind Json.string?
    lastModified := (members.lookup "last_modified").bind Json.timestamp?
    etag := (members.lookup "etag").bind Json.string? }

/-- The entry that a line tells of. -/
def ofLine? (line : String) : Option ObjectEntry :=
  match Json.parse? line.toList with
  | some (.object members) => ofMembers? members
  | _ => none

section Members

variable {α : Type} (name : String) (toJson : α → Json) (value : Option α)

/-- A field is found by its name alone. -/
theorem lookup_member (asked : String) :
    (member name toJson value).lookup asked = if asked = name then value.map toJson else none := by
  -- A field that is absent leaves no member to be found.
  cases value with
  | none => simp [member]
  | some present =>
    by_cases same : asked = name
    · simp [member, same]
    · have other : (asked == name) = false := beq_false_of_ne same
      simp [member, List.lookup_cons, same, other]

/-- A field has no name but its own. -/
theorem map_fst_member_sublist : ((member name toJson value).map Prod.fst).Sublist [name] := by
  -- A field leaves one member or none.
  cases value with
  | none => exact List.nil_sublist _
  | some present => exact List.Sublist.refl _

end Members

/-- The key of an entry is a field that is always present. -/
theorem toJson_eq (entry : ObjectEntry) :
    entry.toJson = .object (member "key" .string (some entry.key)
      ++ member "size_bytes" .number entry.sizeBytes
      ++ member "size_human" .string entry.sizeHuman
      ++ member "last_modified" (fun time => .string time.text) entry.lastModified
      ++ member "etag" .string entry.etag) := rfl

/-- The line of an entry tells of it. -/
theorem toldBy_line (entry : ObjectEntry) : entry.ToldBy (entry.line true) := by
  -- The line is the text of an object, which reads back as its members.
  rw [line, if_pos rfl, toJson_eq]
  refine ⟨_, (Json.isLine_text _).reads, ?_, fun name => ?_⟩
  · -- The names are some of those that there are, all of which differ.
    have all : ["key", "size_bytes", "size_human", "last_modified", "etag"].Nodup := by decide
    refine List.Nodup.sublist ?_ all
    simp only [List.map_append]
    exact ((((map_fst_member_sublist _ _ _).append (map_fst_member_sublist _ _ _)).append
      (map_fst_member_sublist _ _ _)).append (map_fst_member_sublist _ _ _)).append
      (map_fst_member_sublist _ _ _)
  · -- A name is that of one field or of none, and all other fields are passed over.
    simp only [List.lookup_append, lookup_member, field?]
    split_ifs <;> simp_all

/-- A field that is present or absent is read back if each of its values is. -/
theorem bind_map_eq_self {α : Type} {write : α → Json} {read : Json → Option α}
    (reads : ∀ present, read (write present) = some present) (value : Option α) :
    (value.map write).bind read = value := by
  -- A field that is absent is written and read as nothing.
  cases value with
  | none => rfl
  | some present => exact reads present

/-- An entry is read back from any line that tells of it. -/
theorem ofLine?_of_toldBy {entry : ObjectEntry} {line : String} (told : entry.ToldBy line) :
    ofLine? line = some entry := by
  obtain ⟨members, parsed, -, fields⟩ := told
  -- Under each name stands what the field holds.
  have key : members.lookup "key" = some (.string entry.key) := fields "key"
  have sizeBytes : members.lookup "size_bytes" = entry.sizeBytes.map .number := fields "size_bytes"
  have sizeHuman : members.lookup "size_human" = entry.sizeHuman.map .string := fields "size_human"
  have lastModified : members.lookup "last_modified" =
    entry.lastModified.map (fun time => .string time.text) := fields "last_modified"
  have etag : members.lookup "etag" = entry.etag.map .string := fields "etag"
  -- Values of each kind are read back.
  have number : ∀ value : Option Int, (value.map Json.number).bind Json.number? = value :=
    bind_map_eq_self fun _ => rfl
  have string : ∀ value : Option String, (value.map Json.string).bind Json.string? = value :=
    bind_map_eq_self fun _ => rfl
  have time : ∀ value : Option Timestamp,
      (value.map fun time => Json.string time.text).bind Json.timestamp? = value :=
    bind_map_eq_self Json.timestamp?_text
  rw [ofLine?, parsed]
  simp only [ofMembers?, key, sizeBytes, sizeHuman, lastModified, etag, number, string, time]
  rfl

/-- Unequal entries have unequal lines. -/
theorem line_injective : Function.Injective fun entry : ObjectEntry => entry.line true := by
  -- Both entries are read back from the same line.
  intro first second same
  have told := ofLine?_of_toldBy (toldBy_line first)
  rw [show first.line true = second.line true from same,
    ofLine?_of_toldBy (toldBy_line second)] at told
  exact (Option.some.inj told).symm

/-- The entries that the lines of a text tell of. -/
def ofLines (text : String) : List ObjectEntry := (Text.pieces text).filterMap ofLine?

/-- Entries are read back from lines that tell of them. -/
theorem filterMap_ofLine? {entries : List ObjectEntry} {lines : List String}
    (told : List.Forall₂ ToldBy entries lines) : lines.filterMap ofLine? = entries := by
  -- Every line gives one entry, in the same order.
  induction told with
  | nil => rfl
  | cons first _ ih => rw [List.filterMap_cons_some (ofLine?_of_toldBy first), ih]

end ObjectEntry

/-- Whether a text is lines that tell of entries, one line for each of them and nothing else. -/
def TellsEntries (entries : List ObjectEntry) (text : String) : Prop :=
  ∃ lines, Text.pieces text = lines ++ [""] ∧ List.Forall₂ ObjectEntry.ToldBy entries lines

/-- Entries are read back from a text that tells of them. -/
theorem TellsEntries.ofLines_eq {entries : List ObjectEntry} {text : String}
    (tells : TellsEntries entries text) : ObjectEntry.ofLines text = entries := by
  -- The lines are found first, and then an entry in each of them.
  obtain ⟨lines, found, told⟩ := tells
  -- Behind the last line there is nothing that could be an entry.
  have nothing : [""].filterMap ObjectEntry.ofLine? = [] := rfl
  rw [ObjectEntry.ofLines, found, List.filterMap_append, nothing, List.append_nil,
    ObjectEntry.filterMap_ofLine? told]

/-- The lines of entries are found between the newlines of what is printed just if there is no
newline in a line. -/
theorem pieces_printed_iff (json : Bool) (entries : List ObjectEntry) :
    Text.pieces (printed json entries) = (entries.map fun entry => entry.line json) ++ [""] ↔
      ∀ entry ∈ entries, '\n' ∉ (entry.line json).toList := by
  -- What is printed is lines, each with its end.
  have joined : printed json entries =
      String.join ((entries.map fun entry => entry.line json).map (· ++ "\n")) := by
    rw [printed, List.map_map]
    rfl
  -- Lines are found again just if there is no newline inside any of them.
  rw [joined, Text.pieces_lines_iff, List.forall_mem_map]

/-- What is printed in JSON tells of the entries. -/
theorem tellsEntries_printed (entries : List ObjectEntry) :
    TellsEntries entries (printed true entries) := by
  -- Two things are left: lines are found where they end, and each tells of its entry.
  refine ⟨entries.map fun entry => entry.line true, ?_, ?_⟩
  · -- A newline is a control character, and there are none in the text of a value.
    refine (pieces_printed_iff true entries).mpr fun entry _ newline => ?_
    have visible := Json.printable_render entry.toJson
    rw [ObjectEntry.line, if_pos rfl, Json.text, String.toList_ofList] at newline
    exact absurd (visible _ newline) (by decide)
  · exact List.forall₂_map_right_iff.mpr
      (List.forall₂_same.mpr fun entry _ => entry.toldBy_line)

section Served

variable {σ : Type} {store : Store σ} {bucket keyPrefix : String} {state : σ}
  {entries : List ObjectEntry} {failure : Option StorageError}

/-- What any walk to the end brings is what a store serves. -/
theorem Listing.Serves.walked (serves : Serves store bucket keyPrefix state entries failure)
    {count : Nat}
    (ended : ((walk store bucket keyPrefix count .first).run state).value = .nothing) :
    itemsOf ((walk store bucket keyPrefix count .first).run state).events = entries ∧
      failureOf ((walk store bucket keyPrefix count .first).run state).events = failure := by
  -- All walks to the end are the same.
  obtain ⟨steps, finished, rfl, rfl⟩ := serves
  -- Each of the two walks begins with the other.
  have fetched := walk_prefix store bucket keyPrefix finished count
  have all := walk_prefix store bucket keyPrefix ended steps
  rw [fetched.eq_of_length_le all.length_le]
  exact ⟨rfl, rfl⟩

/-- Whatever a store serves is printed to the end, and then the listing ends as the store does. -/
theorem Listing.Serves.printed_eq (serves : Serves store bucket keyPrefix state entries failure) :
    ∃ enough, ∀ fuel, enough ≤ fuel → ∀ json,
      let outcome :=
        (writeListing store json fuel (.output none) (start bucket keyPrefix) 0).run state
      outcome.value = some (failure.elim (.ok entries.length) .error) ∧
        Event.standardOutput outcome.events = printed json entries := by
  -- The walk that shows what is served bounds how many pages there are.
  have served := serves
  obtain ⟨steps, ended, items, -⟩ := served
  have whole : (walk store bucket keyPrefix steps .first).run state =
      ⟨.nothing, ((walk store bucket keyPrefix steps .first).run state).state,
        ((walk store bucket keyPrefix steps .first).run state).events⟩ := by rw [← ended]
  refine ⟨entries.length + steps + 2, fun fuel enough json => ?_⟩
  -- There is fuel for all entries and all pages, so the listing comes to its end.
  have finished : ((writeListing store json fuel (.output none) (start bucket keyPrefix) 0).run
      state).value ≠ none := by
    refine finished_writeListing store json fuel _ whole ?_ 0
    rw [items]
    exact enough
  obtain ⟨result, value⟩ := Option.ne_none_iff_exists'.mp finished
  obtain ⟨⟨count, walks⟩, output, ending⟩ := written_of_finished store json fuel value
  generalize (writeListing store json fuel (.output none) (start bucket keyPrefix) 0).run state =
    outcome at value walks output ending ⊢
  -- It has walked as far as any walk to the end.
  change (walk store bucket keyPrefix count .first).run state = _ at walks
  obtain ⟨brought, met⟩ := serves.walked (congrArg Outcome.value walks)
  rw [walks] at brought met
  -- The result and the output are those of what was fetched, which is what is served.
  refine ⟨?_, ?_⟩
  · rw [value, ending, brought, met]
    simp [start]
  · rw [output, brought]
    rfl

end Served

/-- Any entries are served by a store that has them on its only page. -/
theorem Listing.serves_onePage (bucket keyPrefix : String) (entries : List ObjectEntry) :
    Serves ScriptedStore.store bucket keyPrefix { pages := [.ok ⟨entries, false, none⟩] } entries
      none :=
  ⟨1, rfl, List.append_nil _, rfl⟩

/-- Whatever entries a store serves, its listing is written to the end. In JSON there is one line
for each entry, which has just the fields that are present, so that the entries are read back from
the output and unequal ones have unequal lines. Without JSON the keys are what stands between the
newlines of the output, just if there is no newline in a key. -/
theorem listing_reads_back {σ : Type} {store : Store σ} {bucket keyPrefix : String} {state : σ}
    {entries : List ObjectEntry} {failure : Option StorageError}
    (serves : Listing.Serves store bucket keyPrefix state entries failure) :
    (∀ first second : ObjectEntry, first ≠ second → first.line true ≠ second.line true) ∧
    ∃ enough, ∀ fuel, enough ≤ fuel →
      let written := fun json =>
        (writeListing store json fuel (.output none) (.start bucket keyPrefix) 0).run state
      let output := fun json => Event.standardOutput (written json).events
      (∀ json, (written json).value = some (failure.elim (.ok entries.length) .error)) ∧
      TellsEntries entries (output true) ∧ ObjectEntry.ofLines (output true) = entries ∧
      (Text.pieces (output false) = entries.map ObjectEntry.key ++ [""] ↔
        ∀ entry ∈ entries, '\n' ∉ entry.key.toList) := by
  -- What is written is what is printed for the entries, and that was read back already.
  refine ⟨fun first second other same => other (ObjectEntry.line_injective same), ?_⟩
  obtain ⟨enough, ample⟩ := serves.printed_eq
  refine ⟨enough, fun fuel least => ?_⟩
  intro written output
  -- With enough fuel the output is the whole of it.
  have whole : ∀ json, output json = printed json entries := fun json => (ample fuel least json).2
  have tells := tellsEntries_printed entries
  rw [whole true, whole false]
  exact ⟨fun json => (ample fuel least json).1, tells, tells.ofLines_eq,
    pieces_printed_iff false entries⟩

/-- Entries with a newline in a key, with texts that look like fields and lines of others, and with
any fields absent. -/
def hostileEntries : List ObjectEntry :=
  [{ key := "a\",\"size_bytes\":1,\"etag\":\"", sizeBytes := some (-9223372036854775808) },
    { key := "two\nlines", lastModified := some ⟨-1⟩, etag := some "\\\"\x0b" }, { key := "" }]

/-- Such entries are read back from JSON, but their keys are not found where lines are split. -/
theorem listing_reads_back_hostile :
    Listing.Serves ScriptedStore.store "bucket" "" { pages := [.ok ⟨hostileEntries, false, none⟩] }
      hostileEntries none ∧
    ∃ enough, ∀ fuel, enough ≤ fuel →
      let output := fun json => Event.standardOutput ((writeListing ScriptedStore.store json fuel
        (.output none) (.start "bucket" "") 0).run
          { pages := [.ok ⟨hostileEntries, false, none⟩] }).events
      ObjectEntry.ofLines (output true) = hostileEntries ∧
        Text.pieces (output false) ≠ hostileEntries.map ObjectEntry.key ++ [""] := by
  -- The general theorem is applied to the store with these entries on its only page.
  have serves := Listing.serves_onePage "bucket" "" hostileEntries
  obtain ⟨-, enough, ample⟩ := listing_reads_back serves
  refine ⟨serves, enough, fun fuel least => ?_⟩
  obtain ⟨-, -, read, keys⟩ := ample fuel least
  refine ⟨read, fun found => ?_⟩
  -- One of the keys has a newline, so not all of them can be found.
  have whole := keys.mp found
  exact absurd whole (by decide)

end ObjectStorage
