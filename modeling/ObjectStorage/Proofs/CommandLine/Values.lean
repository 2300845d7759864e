import ObjectStorage.CommandLine.Parser
import ObjectStorage.CommandLine.Written

/-! What a command line that was understood leads to: the verb is the first word that is no option,
and the values are the words behind it that are none. -/

namespace ObjectStorage.CommandLine

/-- Whether a word is an option, or the two dashes behind which there are none. -/
def dashed (word : Word) : Bool := Reading.ofGlyphs word.glyphs != .plain

/-- The values among the words behind a verb: those that are no options, and all words behind two
dashes. -/
def operands : List Word → List Word
  | [] => []
  | word :: rest =>
    match Reading.ofGlyphs word.glyphs with
    | .escape => rest
    | .plain => word :: operands rest
    | _ => operands rest

/-- A word that is text is the word of its text. -/
theorem eq_text_of_text? {word : Word} {value : String} (known : word.text? = some value) :
    word = .text value := by
  -- A word that is no text has no text to be known by.
  cases word with
  | text found => exact congrArg Word.text (Option.some.inj known)
  | raw data broken => exact nomatch known

/-- A computation that succeeds has succeeded at every step. -/
theorem exists_of_bind_eq_ok {ε α β : Type} {first : Except ε α} {next : α → Except ε β}
    {result : β} (succeeded : first >>= next = .ok result) :
    ∃ value, first = .ok value ∧ next value = .ok result := by
  -- A step that fails would have been the result.
  cases first with
  | error fault => exact nomatch succeeded
  | ok value => exact ⟨value, rfl, succeeded⟩

namespace Progress

variable {verb : Verb} {before after : Progress} {word : Word}

/-- The values that were read, in order. -/
def values (progress : Progress) : List Word := progress.settled ++ progress.waiting.toList

/-- As many values were read as are counted. -/
theorem length_values (progress : Progress) : progress.values.length = progress.count :=
  -- The count adds up the same two parts.
  List.length_append

/-- Behind the last value that a verb takes nothing waits any more. -/
theorem settle_ok (room : before.count ≤ verb.parameters.length)
    (settled : before.settle verb = .ok after) :
    after.settled = before.values ∧ after.waiting = none ∧ after.escaped = before.escaped := by
  -- Without a value that waits, settling changes nothing.
  cases waits : before.waiting with
  | none =>
    simp only [settle, waits] at settled
    cases settled
    exact ⟨by simp [values, waits], waits, rfl⟩
  | some value =>
    -- A value that waits has a place among the parameters, so it is looked at.
    have place : before.settled.length < verb.parameters.length := by
      simp only [count, waits, Option.toList_some, List.length_singleton] at room
      omega
    simp only [settle, waits, List.getElem?_eq_getElem place] at settled
    obtain ⟨-, -, settled⟩ := exists_of_bind_eq_ok settled
    cases settled
    exact ⟨by simp [values, waits], rfl, rfl⟩

/-- A value that is taken stands behind those before it. -/
theorem takeValue_ok (taken : before.takeValue verb word = .ok after) :
    after.values = before.values ++ [word] ∧ after.escaped = before.escaped ∧
      after.count ≤ verb.parameters.length := by
  unfold takeValue at taken
  -- A value is taken only while a parameter is left for it.
  split at taken
  case isTrue room =>
    obtain ⟨between, settled, taken⟩ := exists_of_bind_eq_ok taken
    cases taken
    obtain ⟨values, -, escaped⟩ := settle_ok (Nat.le_of_lt room) settled
    -- The new value waits behind those that were settled.
    have behind : Progress.values { between with waiting := some word } =
        before.values ++ [word] := by
      simp [Progress.values, values]
    refine ⟨behind, escaped, ?_⟩
    rw [← length_values, behind, List.length_append, length_values]
    exact room
  case isFalse full => exact nomatch taken

/-- All values that a verb will have when the rest of the line is read. -/
def promised (progress : Progress) (rest : List Word) : List Word :=
  progress.values ++ if progress.escaped then rest else operands rest

/-- An option that is read settles the value before it, and nothing else changes. -/
theorem promised_of_settle (room : before.count ≤ verb.parameters.length)
    (settled : before.settle verb = .ok after) (flags : Flags) (rest : List Word) :
    promised { after with flags } rest = promised before rest ∧
      count { after with flags } ≤ verb.parameters.length := by
  obtain ⟨values, waiting, escaped⟩ := settle_ok room settled
  -- The value that waited is among those that were looked at.
  have same : Progress.values { after with flags } = before.values := by
    simp [Progress.values, values, waiting]
  constructor
  · change Progress.values { after with flags } ++ (if after.escaped then _ else _) = _
    rw [same, escaped]
    rfl
  · rwa [← length_values, same, length_values]

/-- Reading a word changes nothing about what is promised. -/
theorem read_ok (room : before.count ≤ verb.parameters.length)
    (read : before.read verb word = .ok after) (rest : List Word) :
    after.promised rest = before.promised (word :: rest) ∧
      after.count ≤ verb.parameters.length := by
  -- Behind two dashes words are values, and in front of them they may be options.
  cases escaped : before.escaped with
  | true =>
    simp only [Progress.read, escaped, if_true] at read
    obtain ⟨values, still, count⟩ := takeValue_ok read
    exact ⟨by simp [promised, values, still, escaped], count⟩
  | false =>
    simp only [Progress.read, escaped, Bool.false_eq_true, if_false] at read
    cases reading : Reading.ofGlyphs word.glyphs with
    -- Two dashes promise no value, and all words behind them are values.
    | escape =>
      simp only [reading] at read
      cases read
      exact ⟨by simp [promised, values, escaped, operands, reading], room⟩
    -- An option settles the value that waits, and takes none itself.
    | long name value =>
      simp only [reading] at read
      obtain ⟨flags, -, read⟩ := exists_of_bind_eq_ok read
      obtain ⟨between, settled, read⟩ := exists_of_bind_eq_ok read
      cases read
      obtain ⟨same, count⟩ := promised_of_settle room settled flags rest
      exact ⟨same.trans (by simp [promised, escaped, operands, reading]), count⟩
    | letters group =>
      simp only [reading] at read
      obtain ⟨flags, -, read⟩ := exists_of_bind_eq_ok read
      obtain ⟨between, settled, read⟩ := exists_of_bind_eq_ok read
      cases read
      obtain ⟨same, count⟩ := promised_of_settle room settled flags rest
      exact ⟨same.trans (by simp [promised, escaped, operands, reading]), count⟩
    -- A plain word is taken as a value, as far as there is a parameter for it.
    | plain =>
      simp only [reading] at read
      obtain ⟨values, still, count⟩ := takeValue_ok read
      exact ⟨by simp [promised, values, still, escaped, operands, reading], count⟩

/-- Reading all words keeps the promise. -/
theorem foldlM_read_ok {words : List Word} (room : before.count ≤ verb.parameters.length)
    (read : words.foldlM (Progress.read verb) before = .ok after) :
    after.values = before.promised words ∧ after.count ≤ verb.parameters.length := by
  -- What is promised stays the same from word to word, so at the end it is what was read.
  induction words generalizing before with
  | nil =>
    -- Of no words nothing is to come.
    cases read
    exact ⟨by simp [promised, operands], room⟩
  | cons word rest ih =>
    -- The first word keeps the promise, and by induction the others do.
    obtain ⟨between, first, others⟩ := exists_of_bind_eq_ok read
    obtain ⟨same, room⟩ := read_ok room first rest
    obtain ⟨values, count⟩ := ih room others
    exact ⟨values.trans same, count⟩

end Progress

/-- An operation has the verb and the values that it was made of. -/
theorem of_operationOf? {verb : Verb} {values : List Word} {operation : Operation}
    (made : operationOf? verb values = some operation) :
    operation.verb = verb ∧ operation.values = values := by
  unfold operationOf? at made
  -- Each verb asks for the text of its values, but for the local path of an upload.
  split at made
  -- The source is kept as the word that it is.
  case h_1 source bucket key =>
    obtain ⟨bucketText, bucket, keyText, key, rfl⟩ : ∃ bucketText, bucket.text? = some bucketText ∧
        ∃ keyText, key.text? = some keyText ∧ .put source ⟨bucketText, keyText⟩ = operation := by
      simpa [Option.bind_eq_some_iff] using made
    rw [eq_text_of_text? bucket, eq_text_of_text? key]
    exact ⟨rfl, rfl⟩
  -- A listing may have one value or two.
  case h_2 bucket =>
    obtain ⟨bucketText, bucket, rfl⟩ : ∃ bucketText, bucket.text? = some bucketText ∧
        .list bucketText none = operation := by
      simpa [Option.bind_eq_some_iff] using made
    rw [eq_text_of_text? bucket]
    exact ⟨rfl, rfl⟩
  case h_3 bucket keyPrefix =>
    obtain ⟨bucketText, bucket, prefixText, keyPrefix, rfl⟩ :
        ∃ bucketText, bucket.text? = some bucketText ∧
        ∃ prefixText, keyPrefix.text? = some prefixText ∧
          .list bucketText (some prefixText) = operation := by
      simpa [Option.bind_eq_some_iff] using made
    rw [eq_text_of_text? bucket, eq_text_of_text? keyPrefix]
    exact ⟨rfl, rfl⟩
  case h_4 bucket key =>
    obtain ⟨bucketText, bucket, keyText, key, rfl⟩ : ∃ bucketText, bucket.text? = some bucketText ∧
        ∃ keyText, key.text? = some keyText ∧ .remove ⟨bucketText, keyText⟩ = operation := by
      simpa [Option.bind_eq_some_iff] using made
    rw [eq_text_of_text? bucket, eq_text_of_text? key]
    exact ⟨rfl, rfl⟩
  -- With any other number of values nothing is made.
  case h_5 => exact nomatch made

/-- A verb that was read has the values among the words behind it. -/
theorem parseVerb_ok {verb : Verb} {words : List Word} {flags : Flags} {operation : Operation}
    (parsed : parseVerb verb words = .ok (flags, operation)) :
    operation.verb = verb ∧ operation.values = operands words := by
  -- All three stages went well: reading, settling the last value and making the operation.
  obtain ⟨progress, read, parsed⟩ := exists_of_bind_eq_ok parsed
  obtain ⟨settled, settle, parsed⟩ := exists_of_bind_eq_ok parsed
  obtain ⟨values, room⟩ := Progress.foldlM_read_ok (Nat.zero_le _) read
  -- All values are settled at the end, so the operation is made of all of them.
  cases made : operationOf? verb settled.settled with
  | none =>
    rw [made] at parsed
    exact nomatch parsed
  | some found =>
    rw [made] at parsed
    cases parsed
    obtain ⟨verb, same⟩ := of_operationOf? made
    refine ⟨verb, ?_⟩
    rw [same, (Progress.settle_ok room settle).1, values]
    simp [Progress.promised, Progress.values]

/-- A word that is a verb is the name of the verb. -/
theorem eq_name_of_ofWord? {word : Word} {verb : Verb} (known : Verb.ofWord? word = some verb) :
    word = .text verb.name := by
  -- The search looks for the verb whose name is the text of the word.
  have named := List.find?_some known
  exact eq_text_of_text? (by simpa using named)

/-- The verb of a command as it is written. -/
def Command.name : Command → String
  | .operation asked => asked.verb.name
  | .unknown verb _ => verb

/-- What a command takes of the words behind its verb: an operation those that are no options, and
any other verb all of them. -/
def Command.Takes (rest : List Word) : Command → Prop
  | .operation asked => asked.values = operands rest
  | .unknown _ words => words.map .text = rest

/-- A command line leads to a command: only options stand in front of the verb, and the command
takes its words from those behind it. -/
def LeadsTo (words : List Word) (command : Command) : Prop :=
  ∃ options rest, words = options ++ .text command.name :: rest ∧
    (∀ option ∈ options, dashed option = true) ∧ command.Takes rest

/-- An option in front leads to the same. -/
theorem LeadsTo.cons {option : Word} {words : List Word} {command : Command}
    (leads : LeadsTo words command) (skipped : dashed option = true) :
    LeadsTo (option :: words) command := by
  -- The option joins those in front of the verb, and the words behind it stay.
  obtain ⟨options, rest, rfl, all, values⟩ := leads
  exact ⟨option :: options, rest, rfl, List.forall_mem_cons.mpr ⟨skipped, all⟩, values⟩

/-- Words that are all text are the words of their texts. -/
theorem map_text_of_mapM_text? {words : List Word} {texts : List String}
    (known : words.mapM Word.text? = some texts) : texts.map .text = words := by
  -- The texts are found word by word, or not at all.
  induction words generalizing texts with
  | nil =>
    cases known
    rfl
  | cons word rest ih =>
    obtain ⟨first, text, others, remaining, rfl⟩ : ∃ first, word.text? = some first ∧
        ∃ others, rest.mapM Word.text? = some others ∧ first :: others = texts := by
      simpa [List.mapM_cons, Option.bind_eq_some_iff] using known
    rw [List.map_cons, ih remaining, eq_text_of_text? text]

/-- A verb that the program does not know is led to by the words that stand there. -/
theorem leadsTo_of_parseUnknown {flags : Flags} {verb : Word} {words : List Word}
    {invocation : Invocation} (parsed : parseUnknown flags verb words = .ok invocation) :
    LeadsTo (verb :: words) invocation.command := by
  unfold parseUnknown at parsed
  -- All words have to be text, and then they are handed on.
  split at parsed
  case h_1 name texts named known =>
    cases parsed
    rw [eq_text_of_text? named]
    exact ⟨[], words, rfl, List.forall_mem_nil _, map_text_of_mapM_text? known⟩
  case h_2 => exact nomatch parsed

/-- A command line that was understood leads to its command. -/
theorem leadsTo_of_parseFrom {flags : Flags} {words : List Word} {invocation : Invocation}
    (parsed : parseFrom flags words = .ok invocation) : LeadsTo words invocation.command := by
  -- Options in front of the verb are read one by one, with any flags set before.
  induction words generalizing flags with
  | nil => exact nomatch parsed
  | cons word rest ih =>
    unfold parseFrom at parsed
    cases known : Verb.ofWord? word with
    | some verb =>
      -- The first word is the verb, and the rest is read for it.
      simp only [known] at parsed
      obtain ⟨⟨own, operation⟩, read, parsed⟩ := exists_of_bind_eq_ok parsed
      cases parsed
      -- What stands behind the verb gives the values of the operation.
      obtain ⟨rfl, values⟩ := parseVerb_ok read
      rw [eq_name_of_ofWord? known]
      exact ⟨[], rest, rfl, List.forall_mem_nil _, values⟩
    | none =>
      simp only [known] at parsed
      cases reading : Reading.ofGlyphs word.glyphs with
      | escape =>
        have skipped : dashed word = true := by simp [dashed, reading]
        simp only [reading] at parsed
        -- Two dashes in front of the verb make the next word one that is not known.
        cases rest with
        | nil => exact nomatch parsed
        | cons verb words => exact (leadsTo_of_parseUnknown parsed).cons skipped
      -- An option is passed over, whatever it is.
      | long name value =>
        have skipped : dashed word = true := by simp [dashed, reading]
        simp only [reading] at parsed
        obtain ⟨set, -, parsed⟩ := exists_of_bind_eq_ok parsed
        exact (ih parsed).cons skipped
      | letters group =>
        have skipped : dashed word = true := by simp [dashed, reading]
        simp only [reading] at parsed
        obtain ⟨set, -, parsed⟩ := exists_of_bind_eq_ok parsed
        exact (ih parsed).cons skipped
      -- A plain word that is no verb is an unknown one.
      | plain =>
        simp only [reading] at parsed
        exact leadsTo_of_parseUnknown parsed

end ObjectStorage.CommandLine
