import ObjectStorage.Proofs.CommandLine.Acceptance
import ObjectStorage.Proofs.CommandLine.Flags

/-! Flags may stand anywhere on a command line, once on each side of the verb, and in either form:
the values alone decide if the line is understood and which operation it asks for. -/

namespace ObjectStorage.CommandLine

/-- A word behind a verb: a flag, or a value. -/
inductive Part where
  | flag (spelling : Spelling)
  | value (word : Word)
  deriving DecidableEq

namespace Part

/-- A part as it is written. -/
def word : Part → Word
  | .flag spelling => spelling.word
  | .value word => word

/-- The flag that a part is, if it is one. -/
def flag? : Part → Option Flag
  | .flag spelling => some spelling.flag
  | .value _ => none

/-- The value that a part is, if it is one. -/
def value? : Part → Option Word
  | .flag _ => none
  | .value word => some word

end Part

namespace Verb

/-- The values of a verb that have to be text: all but a local path. -/
def texts (values : List Word) : Verb → List Word
  | .put => values.drop 1
  | _ => values

/-- Whether these are values for a verb: as many as it takes, and no empty local path. -/
def Fits (values : List Word) : Verb → Prop
  | .put => values.length = 3 ∧ values.head? ≠ some (.text "")
  | .list => values.length = 1 ∨ values.length = 2
  | .remove => values.length = 2

end Verb

/-- A command line in which flags stand on either side of the verb, once on each, and among the
values behind it. -/
structure Line where
  verb : Verb
  before : List Spelling
  behind : List Part
  onceBefore : (before.map Spelling.flag).Nodup
  onceBehind : (behind.filterMap Part.flag?).Nodup
  plain : ∀ word ∈ behind.filterMap Part.value?, word.Plain
  known : ∀ word ∈ verb.texts (behind.filterMap Part.value?), ∃ text, word = .text text

namespace Line

/-- A command line as it is written. -/
def words (line : Line) : List Word :=
  line.before.map Spelling.word ++ .text line.verb.name :: line.behind.map Part.word

/-- The flags on a command line, on both sides of the verb. -/
def flags (line : Line) : List Flag :=
  line.before.map Spelling.flag ++ line.behind.filterMap Part.flag?

/-- The values on a command line. -/
def values (line : Line) : List Word := line.behind.filterMap Part.value?

end Line

namespace Progress

variable {verb : Verb} {progress : Progress}

/-- Settled values are all there are where none waits. -/
theorem values_settled (flags : Flags) (settled : List Word) :
    values { flags, settled } = settled :=
  -- Settled values come first, and behind them stands what waits.
  List.append_nil settled

section Step

variable {more : List Word} {flags : Flags} {next : Progress → Except Rejection Progress}

/-- A flag leaves what is decided to the words behind it, which start with all values settled. -/
theorem decides_read_spelling {spelling : Spelling} (sound : Sound verb progress)
    (unescaped : progress.escaped = false) (fresh : progress.flags.has spelling.flag = false)
    (rest : Sound verb { flags := progress.flags.add spelling.flag, settled := progress.values } →
      Decides verb (progress.values ++ more) flags false
        (next { flags := progress.flags.add spelling.flag, settled := progress.values })) :
    Decides verb (progress.values ++ more) flags false
      (progress.read verb spelling.word >>= next) := by
  -- The value that waits decides before the flag is noted.
  have decides := decides_settle sound
  rw [read_spelling spelling verb unescaped, bind_assoc]
  by_cases accepts : Accepts verb.parameters progress.values
  · rw [decides.accepted accepts, apply_flag fresh, unescaped]
    exact rest ⟨accepts, accepts.length_le⟩
  · exact decides.of_refused accepts _

end Step

/-- Reading the words behind a verb decides about all their values. -/
theorem decides_read (parts : List Part) (sound : Sound verb progress)
    (unescaped : progress.escaped = false)
    (plain : ∀ word ∈ parts.filterMap Part.value?, word.Plain)
    (once : (parts.filterMap Part.flag?).Nodup)
    (fresh : ∀ flag ∈ parts.filterMap Part.flag?, progress.flags.has flag = false) :
    Decides verb (progress.values ++ parts.filterMap Part.value?)
      ((parts.filterMap Part.flag?).foldl Flags.add progress.flags) false
      ((parts.map Part.word).foldlM (read verb) progress >>= settle verb) := by
  -- Each part looks at the value that waits, and the end of the line looks at the last.
  induction parts generalizing progress with
  | nil => simpa [unescaped] using decides_settle sound
  | cons part parts ih =>
    rw [List.map_cons, List.foldlM_cons, bind_assoc]
    cases part with
    | flag spelling =>
      -- A flag settles the values before it, and the rest starts from there.
      obtain ⟨new, once⟩ := List.nodup_cons.mp once
      obtain ⟨own, fresh⟩ := List.forall_mem_cons.mp fresh
      refine decides_read_spelling sound unescaped own fun settled => ?_
      have rest := ih settled rfl plain once (Flags.has_add_of_notMem new fresh)
      rwa [values_settled] at rest
    | value word =>
      -- A value only waits, and what follows it is read with it waiting.
      obtain ⟨own, plain⟩ := List.forall_mem_cons.mp plain
      rw [Part.word, read_plain verb unescaped own]
      refine decides_takeValue sound fun waits => ?_
      have rest := ih waits unescaped plain once fresh
      rwa [values, List.append_assoc] at rest

end Progress

section Fits

variable {verb : Verb} {values : List Word}

/-- An operation can be asked for just if its values fit. -/
theorem fits_values_iff (operation : Operation) :
    operation.verb.Fits operation.values ↔ operation.isWritable = true := by
  -- Only the local path of an upload may not fit.
  cases operation with
  | put source target =>
    simp [Operation.verb, Operation.values, Operation.isWritable, Verb.Fits,
      ← Bool.not_eq_true, isEmpty_word_iff]
  | list bucket keyPrefix =>
    cases keyPrefix <;>
      simp [Operation.verb, Operation.values, Operation.isWritable, Verb.Fits]
  | remove target => simp [Operation.verb, Operation.values, Operation.isWritable, Verb.Fits]

/-- Values that fit are those of an operation. -/
theorem exists_values_of_fits (fits : verb.Fits values)
    (known : ∀ word ∈ verb.texts values, ∃ text, word = .text text) :
    ∃ operation : Operation, operation.verb = verb ∧ operation.values = values := by
  -- All values but a local path are text, so an operation can have them.
  cases verb with
  -- The source may be any word.
  | put =>
    obtain ⟨source, bucket, key, rfl⟩ := List.length_eq_three.mp fits.1
    obtain ⟨bucket, rfl⟩ := known bucket (by simp [Verb.texts])
    obtain ⟨key, rfl⟩ := known key (by simp [Verb.texts])
    exact ⟨.put source ⟨bucket, key⟩, rfl, rfl⟩
  -- The prefix may be missing.
  | list =>
    rcases fits with one | two
    · obtain ⟨bucket, rfl⟩ := List.length_eq_one_iff.mp one
      obtain ⟨bucket, rfl⟩ := known bucket (by simp [Verb.texts])
      exact ⟨.list bucket none, rfl, rfl⟩
    · obtain ⟨bucket, keyPrefix, rfl⟩ := List.length_eq_two.mp two
      obtain ⟨bucket, rfl⟩ := known bucket (by simp [Verb.texts])
      obtain ⟨keyPrefix, rfl⟩ := known keyPrefix (by simp [Verb.texts])
      exact ⟨.list bucket (some keyPrefix), rfl, rfl⟩
  | remove =>
    obtain ⟨bucket, key, rfl⟩ := List.length_eq_two.mp fits
    obtain ⟨bucket, rfl⟩ := known bucket (by simp [Verb.texts])
    obtain ⟨key, rfl⟩ := known key (by simp [Verb.texts])
    exact ⟨.remove ⟨bucket, key⟩, rfl, rfl⟩

end Fits

section Line

variable {verb : Verb} {parts : List Part}

/-- What stands behind a verb is understood just if the values fit, and then it means what they
say. -/
theorem parseVerb_parts (plain : ∀ word ∈ parts.filterMap Part.value?, word.Plain)
    (known : ∀ word ∈ verb.texts (parts.filterMap Part.value?), ∃ text, word = .text text)
    (once : (parts.filterMap Part.flag?).Nodup) :
    (verb.Fits (parts.filterMap Part.value?) → ∃ operation,
      parseVerb verb (parts.map Part.word) =
        .ok (Flags.ofList (parts.filterMap Part.flag?), operation) ∧
      operation.verb = verb ∧ operation.values = parts.filterMap Part.value?) ∧
    (¬ verb.Fits (parts.filterMap Part.value?) → ∃ rejection,
      parseVerb verb (parts.map Part.word) = .error rejection ∧ rejection.isAnswer = false) := by
  -- Reading starts with no flags and no values, so it decides about just those of the line.
  have decides := Progress.decides_read parts (Progress.sound_start verb false) rfl plain once
    fun flag _ => Flags.has_none flag
  change Progress.Decides verb (parts.filterMap Part.value?) (Flags.ofList _) _ _ at decides
  constructor
  · intro fits
    -- Values that fit are those of an operation, which reading finds again.
    obtain ⟨operation, rfl, same⟩ := exists_values_of_fits fits known
    rw [← same] at decides fits ⊢
    exact ⟨operation, parseVerb_of_values operation decides ((fits_values_iff operation).mp fits),
      rfl, rfl⟩
  · intro misfit
    rcases parseVerb_cases decides with
      ⟨operation, rfl, same, writable, -⟩ | ⟨rejection, refused, refuses⟩
    · -- The values of an operation that can be asked for would fit.
      exact absurd (same ▸ (fits_values_iff operation).mpr writable) misfit
    · exact ⟨rejection, refused, refuses.isAnswer⟩

/-- A command line is understood just if its values fit, wherever its flags stand: then it has these
flags and no others, and asks for its verb with its values, and otherwise it is a mistake. -/
theorem flags_stand_anywhere (line : Line) :
    (line.verb.Fits line.values → ∃ flags operation,
      parse line.words = .ok ⟨flags, .operation operation⟩ ∧
      (∀ flag, flags.has flag = true ↔ flag ∈ line.flags) ∧
      operation.verb = line.verb ∧ operation.values = line.values) ∧
    (¬ line.verb.Fits line.values → ∃ rejection, parse line.words = .error rejection ∧
      rejection.isAnswer = false ∧ rejection.exitCode = 2) := by
  obtain ⟨verb, before, behind, onceBefore, onceBehind, plain, known⟩ := line
  obtain ⟨understood, mistaken⟩ := parseVerb_parts plain known onceBehind
  -- Only flags stand in front of the verb, so what stands behind it decides.
  have read : parse (before.map Spelling.word ++ .text verb.name :: behind.map Part.word) =
      (parseVerb verb (behind.map Part.word)).map fun read =>
        ⟨(Flags.ofList (before.map Spelling.flag)).union read.1, .operation read.2⟩ := by
    rw [parse, parseFrom_spellings onceBefore fun flag _ => Flags.has_none flag, parseFrom_verb]
    rfl
  simp only [Line.words, Line.values, Line.flags, read]
  constructor
  · intro fits
    obtain ⟨operation, parsed, means⟩ := understood fits
    rw [parsed]
    -- The flags of both sides are joined, and each side has just those that it names.
    refine ⟨_, operation, rfl, fun flag => ?_, means⟩
    simp [Flags.has_union, Flags.ofList, Flags.has_foldl_add, Flags.has_none]
  · -- A rejection of what stands behind the verb is that of the line.
    intro misfit
    obtain ⟨rejection, parsed, complaint⟩ := mistaken misfit
    rw [parsed]
    exact ⟨rejection, rfl, complaint, by simp [Rejection.exitCode, complaint]⟩

/-- An upload of a file whose name is a byte that is no text, to a bucket whose name is a dash.
Flags stand on both sides of the verb, one of them on each, and between the values. -/
def Line.scattered : Line where
  verb := .put
  before := [⟨.quiet, true⟩, ⟨.debug, false⟩]
  behind := [.flag ⟨.quiet, false⟩, .value (.raw #[0xfe] (by decide)), .flag ⟨.json, false⟩,
    .value (.text "-"), .value (.text "k"), .flag ⟨.noColor, false⟩]
  onceBefore := by decide
  onceBehind := by decide
  plain := by decide
  known := List.forall_mem_cons.mpr ⟨⟨"-", rfl⟩, List.forall_mem_singleton.mpr ⟨"k", rfl⟩⟩

/-- A deletion that lacks its key, with flags around its bucket. -/
def Line.unfinished : Line where
  verb := .remove
  before := [⟨.json, false⟩]
  behind := [.flag ⟨.json, false⟩, .value (.text "b"), .flag ⟨.quiet, true⟩]
  onceBefore := by decide
  onceBehind := by decide
  plain := by decide
  known := List.forall_mem_singleton.mpr ⟨"b", rfl⟩

/-- The scattered flags are noted and the values between them are taken, and a line that lacks a
value is a mistake. -/
theorem flags_stand_anywhere_scattered :
    Line.scattered.verb.Fits Line.scattered.values ∧
    (∃ flags operation,
      parse [.text "-q", .text "--debug", .text "put", .text "--quiet",
        .raw #[0xfe] (by decide), .text "--json", .text "-", .text "k", .text "--no-color"] =
        .ok ⟨flags, .operation operation⟩ ∧
      (∀ flag, flags.has flag = true ↔ flag ∈ [.quiet, .debug, .quiet, .json, .noColor]) ∧
      operation.verb = .put ∧
      operation.values = [.raw #[0xfe] (by decide), .text "-", .text "k"]) ∧
    ¬ Line.unfinished.verb.Fits Line.unfinished.values ∧
    ∃ rejection,
      parse [.text "--json", .text "rm", .text "--json", .text "b", .text "-q"] =
        .error rejection ∧
      rejection.isAnswer = false ∧ rejection.exitCode = 2 := by
  -- Whether the values fit is all that has to be checked, once for each of the two lines.
  have fits : Line.scattered.verb.Fits Line.scattered.values := ⟨rfl, nofun⟩
  have misfit : ¬ Line.unfinished.verb.Fits Line.unfinished.values := nofun
  -- Each of the two lines is one side of the law.
  exact ⟨fits, (flags_stand_anywhere .scattered).1 fits, misfit,
    (flags_stand_anywhere .unfinished).2 misfit⟩

end Line

end ObjectStorage.CommandLine
