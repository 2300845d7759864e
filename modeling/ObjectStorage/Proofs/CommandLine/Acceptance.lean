import Mathlib.Data.List.Basic
import ObjectStorage.Proofs.CommandLine.Values

/-! The values that a verb is given: they are looked at in their order, and either all of them pass
or one of them is refused, for a reason that is about the values alone. -/

namespace ObjectStorage.CommandLine

/-- A word has no bytes just if it is the empty text. -/
theorem isEmpty_word_iff {word : Word} : word.isEmpty = true ↔ word = .text "" := by
  -- Bytes that are no text are never none at all, so only text is tested.
  cases word with
  | text value => simp [Word.isEmpty]
  | raw data broken => simp [Word.isEmpty]

/-- Whether values pass at their places: for each there is a parameter that finds it in order. -/
def Accepts : List Parameter → List Word → Prop
  | _, [] => True
  | [], _ :: _ => False
  | parameter :: parameters, value :: values =>
    Progress.check parameter value = .ok () ∧ Accepts parameters values

section Accepts

variable {parameters : List Parameter} {values others : List Word}

/-- Values that pass with others behind them pass without them. -/
theorem Accepts.of_append (accepts : Accepts parameters (values ++ others)) :
    Accepts parameters values := by
  -- Values and parameters are used up side by side.
  induction values generalizing parameters with
  -- Of no values there is nothing to pass, whatever parameters are left.
  | nil => cases parameters <;> trivial
  | cons value values ih =>
    cases parameters with
    | nil => exact accepts
    | cons parameter parameters => exact ⟨accepts.1, ih accepts.2⟩

/-- No more values pass than there are parameters. -/
theorem Accepts.length_le (accepts : Accepts parameters values) :
    values.length ≤ parameters.length := by
  -- Each value that passes uses up a parameter, and without one no value passes.
  induction values generalizing parameters with
  | nil => exact Nat.zero_le _
  | cons value values ih =>
    cases parameters with
    | nil => exact accepts.elim
    | cons parameter parameters => exact Nat.succ_le_succ (ih accepts.2)

/-- One more value passes if those before it do and it is in order at its place. -/
theorem accepts_concat {parameter : Parameter}
    (place : parameters[values.length]? = some parameter) (value : Word) :
    Accepts parameters (values ++ [value]) ↔
      Accepts parameters values ∧ Progress.check parameter value = .ok () := by
  -- Looking for the place of the last value walks past the others, parameter by parameter.
  induction values generalizing parameters with
  | nil =>
    -- The value is the first, so its place is that of the first parameter.
    cases parameters with
    | nil => exact nomatch place
    | cons first parameters =>
      obtain rfl : first = parameter := by simpa using place
      cases parameters <;> simp [Accepts]
  | cons other values ih =>
    cases parameters with
    | nil => exact nomatch place
    | cons first parameters => simp [Accepts, ih (by simpa using place), and_assoc]

end Accepts

/-- Why words that stand for the values of a verb are refused. -/
inductive Refuses (verb : Verb) (words : List Word) : Rejection → Prop
  /-- There are more words than the verb takes. -/
  | extra {word : Word} (among : word ∈ words) (many : verb.parameters.length < words.length) :
    Refuses verb words (.unexpected word.display .none)
  /-- A local path is empty. -/
  | empty {place : Nat} {parameter : Parameter} (taken : verb.parameters[place]? = some parameter)
    (path : parameter.isPath = true) (stands : words[place]? = some (.text "")) :
    Refuses verb words (.emptyValue parameter)
  /-- A word that has to be text is none. -/
  | broken {place : Nat} {parameter : Parameter} {word : Word}
    (taken : verb.parameters[place]? = some parameter) (path : parameter.isPath = false)
    (stands : words[place]? = some word) (raw : word.text? = none) :
    Refuses verb words .notText
  /-- There are fewer words than the verb needs. -/
  | lacking (few : words.length < (verb.parameters.filter Parameter.required).length) :
    Refuses verb words
      (.missing ((verb.parameters.drop words.length).filter Parameter.required))

/-- Words are never refused with an answer to anything that was asked for. -/
theorem Refuses.isAnswer {verb : Verb} {words : List Word} {rejection : Rejection}
    (refuses : Refuses verb words rejection) : rejection.isAnswer = false := by
  -- None of the four complaints answers a request for help or the version.
  cases refuses <;> rfl

namespace Progress

/-- What reading comes to: all the values if they pass, and otherwise a complaint that stands
whatever follows them. -/
structure Decides (verb : Verb) (values : List Word) (flags : Flags) (escaped : Bool)
    (result : Except Rejection Progress) : Prop where
  accepted : Accepts verb.parameters values → result = .ok ⟨flags, values, none, escaped⟩
  refused : ¬ Accepts verb.parameters values →
    ∃ rejection, result = .error rejection ∧ ∀ more, Refuses verb (values ++ more) rejection

/-- Whether values were read as far as they can be in order: only the latest is still to be looked
at. -/
structure Sound (verb : Verb) (progress : Progress) : Prop where
  settled : Accepts verb.parameters progress.settled
  room : progress.count ≤ verb.parameters.length

variable {verb : Verb} {progress : Progress}

/-- A value that is not in order is refused at its place, whatever follows it. -/
theorem refuses_of_check {settled : List Word} {parameter : Parameter} {value : Word}
    {rejection : Rejection} (taken : verb.parameters[settled.length]? = some parameter)
    (wrong : check parameter value = .error rejection) (more : List Word) :
    Refuses verb (settled ++ [value] ++ more) rejection := by
  have stands : (settled ++ [value] ++ more)[settled.length]? = some value := by simp
  unfold check at wrong
  -- A local path must not be empty, and anything else must be text.
  split_ifs at wrong with path empty known
  · cases wrong
    exact .empty taken path (isEmpty_word_iff.mp empty ▸ stands)
  · cases wrong
    exact .broken taken (by simpa using path) stands (by simpa using known)

/-- Looking at the waiting value decides about all that were read. -/
theorem decides_settle (sound : Sound verb progress) :
    Decides verb progress.values progress.flags progress.escaped (progress.settle verb) := by
  -- The values before the one that waits have passed, so it alone is looked at.
  obtain ⟨flags, settled, waiting, escaped⟩ := progress
  obtain ⟨accepts, room⟩ := sound
  cases waiting with
  | none =>
    refine ⟨fun _ => by simp [settle, values], fun wrong => absurd accepts ?_⟩
    simpa [values] using wrong
  | some value =>
    -- The value that waits is the last, and those before it have passed.
    have place := List.getElem?_eq_getElem (show settled.length < verb.parameters.length from room)
    have passes := accepts_concat place value
    simp only [settle, place, values, Option.toList_some]
    cases checked : check verb.parameters[settled.length] value with
    | ok =>
      exact ⟨fun _ => rfl, fun wrong => absurd (passes.mpr ⟨accepts, checked⟩) wrong⟩
    | error rejection =>
      refine ⟨fun all => ?_, fun _ => ⟨rejection, rfl, refuses_of_check place checked⟩⟩
      cases checked.symm.trans (passes.mp all).2

/-- Where what comes first decides that values are wrong, no more values change that. -/
theorem Decides.of_refused {values more : List Word} {flags other : Flags} {escaped later : Bool}
    {first : Except Rejection Progress} (decides : Decides verb values flags escaped first)
    (wrong : ¬ Accepts verb.parameters values) (next : Progress → Except Rejection Progress) :
    Decides verb (values ++ more) other later (first >>= next) := by
  -- The complaint was one for all values to come, so it is one for these.
  obtain ⟨rejection, rfl, refuses⟩ := decides.refused wrong
  refine ⟨fun all => absurd all.of_append wrong, fun _ => ⟨rejection, rfl, fun others => ?_⟩⟩
  rw [List.append_assoc]
  exact refuses (more ++ others)

/-- A value waits for the words behind it to decide, once those before it are settled. -/
theorem decides_takeValue {word : Word} {more : List Word} {flags : Flags} {escaped : Bool}
    {next : Progress → Except Rejection Progress} (sound : Sound verb progress)
    (rest : Sound verb ⟨progress.flags, progress.values, some word, progress.escaped⟩ →
      Decides verb (progress.values ++ word :: more) flags escaped
        (next ⟨progress.flags, progress.values, some word, progress.escaped⟩)) :
    Decides verb (progress.values ++ word :: more) flags escaped
      (progress.takeValue verb word >>= next) := by
  -- Before a value is taken, the one that waited is settled.
  have decides := decides_settle sound
  rw [takeValue]
  by_cases room : progress.count < verb.parameters.length
  · -- There is a place for the value, so those before it decide first.
    rw [if_pos room, bind_assoc]
    by_cases accepts : Accepts verb.parameters progress.values
    · rw [decides.accepted accepts]
      refine rest ⟨accepts, ?_⟩
      change progress.values.length + 1 ≤ verb.parameters.length
      rwa [length_values]
    · exact decides.of_refused accepts _
  · -- A value that has no place does not pass.
    have many : verb.parameters.length < (progress.values ++ word :: more).length := by
      rw [List.length_append, length_values, List.length_cons]
      omega
    rw [if_neg room]
    refine ⟨fun all => absurd all.length_le (Nat.not_le_of_lt many), fun _ => ?_⟩
    refine ⟨_, rfl, fun others => .extra (by simp) ?_⟩
    rw [List.length_append]
    omega

/-- Before anything is read, all is in order. -/
theorem sound_start (verb : Verb) (escaped : Bool) : Sound verb { escaped } :=
  -- Nothing was read, so nothing is out of order and every place is left.
  ⟨by cases verb <;> trivial, Nat.zero_le _⟩

end Progress

section Made

variable {verb : Verb} {words values : List Word}

/-- A local path is in order just if it is not empty. -/
theorem check_path_iff {parameter : Parameter} (path : parameter.isPath = true) {value : Word} :
    Progress.check parameter value = .ok () ↔ value.isEmpty = false := by
  -- A local path may be any bytes, so all that matters is whether there are any.
  cases empty : value.isEmpty <;> simp [Progress.check, path, empty]

/-- Where no local path is asked for, a word is in order just if it is text. -/
theorem check_text_iff {parameter : Parameter} (other : parameter.isPath = false) {value : Word} :
    Progress.check parameter value = .ok () ↔ ∃ text, value = .text text := by
  -- Bytes that are no text are the one kind of word without a text.
  cases value <;> simp [Progress.check, other, Word.text?]

/-- The values of an operation pass just if the operation can be asked for. -/
theorem accepts_values_iff (operation : Operation) :
    Accepts operation.verb.parameters operation.values ↔ operation.isWritable = true := by
  -- Only the local path of an upload may be out of order, since all other values are text.
  cases operation with
  | put source target =>
    simp [Operation.verb, Operation.values, Operation.isWritable, Verb.parameters, Accepts,
      check_path_iff, check_text_iff]
  | list bucket keyPrefix =>
    cases keyPrefix <;>
      simp [Operation.verb, Operation.values, Operation.isWritable, Verb.parameters, Accepts,
        check_text_iff]
  | remove target =>
    simp [Operation.verb, Operation.values, Operation.isWritable, Verb.parameters, Accepts,
      check_text_iff]

/-- The values of an operation make it. -/
theorem operationOf?_values (operation : Operation) :
    operationOf? operation.verb operation.values = some operation := by
  -- The verb and the number of the values tell the operation, which then takes each value back.
  cases operation with
  | put source target => rfl
  | list bucket keyPrefix => cases keyPrefix <;> rfl
  | remove target => rfl

/-- Values that pass make an operation, unless there are too few of them. -/
theorem exists_operationOf? (accepts : Accepts verb.parameters values)
    (enough : (verb.parameters.filter Parameter.required).length ≤ values.length) :
    ∃ operation, operationOf? verb values = some operation := by
  -- As many values are needed as there are parameters, but for a prefix.
  have most := accepts.length_le
  -- There are as many values as the verb takes, and all but a local path are text.
  cases verb with
  -- The local path may be any word, so nothing is asked of it.
  | put =>
    obtain ⟨source, bucket, key, rfl⟩ := List.length_eq_three.mp (Nat.le_antisymm most enough)
    obtain ⟨-, bucketPasses, keyPasses, -⟩ := accepts
    obtain ⟨bucket, rfl⟩ := (check_text_iff rfl).mp bucketPasses
    obtain ⟨key, rfl⟩ := (check_text_iff rfl).mp keyPasses
    exact ⟨_, rfl⟩
  | list =>
    -- A listing may do without its prefix, so there are one or two values.
    rcases Nat.lt_or_eq_of_le most with few | two
    · obtain ⟨bucket, rfl⟩ :=
        List.length_eq_one_iff.mp (Nat.le_antisymm (Nat.le_of_lt_succ few) enough)
      obtain ⟨bucket, rfl⟩ := (check_text_iff rfl).mp accepts.1
      exact ⟨_, rfl⟩
    · obtain ⟨bucket, keyPrefix, rfl⟩ := List.length_eq_two.mp two
      obtain ⟨bucketPasses, prefixPasses, -⟩ := accepts
      obtain ⟨bucket, rfl⟩ := (check_text_iff rfl).mp bucketPasses
      obtain ⟨keyPrefix, rfl⟩ := (check_text_iff rfl).mp prefixPasses
      exact ⟨_, rfl⟩
  | remove =>
    obtain ⟨bucket, key, rfl⟩ := List.length_eq_two.mp (Nat.le_antisymm most enough)
    obtain ⟨bucketPasses, keyPasses, -⟩ := accepts
    obtain ⟨bucket, rfl⟩ := (check_text_iff rfl).mp bucketPasses
    obtain ⟨key, rfl⟩ := (check_text_iff rfl).mp keyPasses
    exact ⟨_, rfl⟩

end Made

section Line

variable {verb : Verb} {words values : List Word} {flags : Flags} {escaped : Bool}

/-- A complaint about the values is one about the verb. -/
theorem parseVerb_of_refused {rejection : Rejection}
    (refused : words.foldlM (Progress.read verb) {} >>= Progress.settle verb = .error rejection) :
    parseVerb verb words = .error rejection := by
  -- Nothing is made of words whose reading has ended with a complaint.
  rw [parseVerb, ← bind_assoc, refused]
  rfl

/-- Values that an operation can be made of make it, and otherwise some are missing. -/
theorem parseVerb_of_settled {progress : Progress}
    (settled : words.foldlM (Progress.read verb) {} >>= Progress.settle verb = .ok progress) :
    parseVerb verb words = (operationOf? verb progress.settled).elim
      (.error (.missing ((verb.parameters.drop progress.settled.length).filter Parameter.required)))
      fun operation => .ok (progress.flags, operation) := by
  -- Reading went well, so all that is left is to make an operation of the values.
  rw [parseVerb, ← bind_assoc, settled, show Except.ok progress = pure progress from rfl, pure_bind]
  cases operationOf? verb progress.settled <;> rfl

/-- Where reading decides about the values, an operation that has them is asked for. -/
theorem parseVerb_of_values (operation : Operation)
    (decides : Progress.Decides operation.verb operation.values flags escaped
      (words.foldlM (Progress.read operation.verb) {} >>= Progress.settle operation.verb))
    (writable : operation.isWritable = true) :
    parseVerb operation.verb words = .ok (flags, operation) := by
  -- The values pass because the operation can be asked for, and they make it again.
  rw [parseVerb_of_settled (decides.accepted ((accepts_values_iff operation).mpr writable))]
  simp only [operationOf?_values, Option.elim_some]

/-- Where reading decides about the values, they are those of the operation that is asked for, or
they are refused. -/
theorem parseVerb_cases
    (decides : Progress.Decides verb values flags escaped
      (words.foldlM (Progress.read verb) {} >>= Progress.settle verb)) :
    (∃ operation, operation.verb = verb ∧ operation.values = values ∧
      operation.isWritable = true ∧ parseVerb verb words = .ok (flags, operation)) ∨
    ∃ rejection, parseVerb verb words = .error rejection ∧ Refuses verb values rejection := by
  -- Values that do not pass are refused; those that do may still be too few.
  by_cases accepts : Accepts verb.parameters values
  · cases made : operationOf? verb values with
    | some operation =>
      -- The operation has the values that it was made of, so it can be asked for as they pass.
      obtain ⟨rfl, rfl⟩ := of_operationOf? made
      have writable := (accepts_values_iff operation).mp accepts
      exact .inl ⟨operation, rfl, rfl, writable, parseVerb_of_values operation decides writable⟩
    | none =>
      -- All values are in order, so there are too few of them.
      refine .inr ⟨_, ?_, .lacking ?_⟩
      · rw [parseVerb_of_settled (decides.accepted accepts)]
        simp only [made, Option.elim_none]
      · refine Nat.lt_of_not_le fun enough => ?_
        obtain ⟨operation, some⟩ := exists_operationOf? accepts enough
        cases made.symm.trans some
  · obtain ⟨rejection, refused, refuses⟩ := decides.refused accepts
    refine .inr ⟨rejection, parseVerb_of_refused refused, ?_⟩
    simpa using refuses []

end Line

end ObjectStorage.CommandLine
