import ObjectStorage.CommandLine.Rejection

/-! Reading a command line from left to right. -/

namespace ObjectStorage.CommandLine

open Text (Glyph)

/-- Where an option stands: before any verb, or after one. -/
abbrev Position := Topic

/-- Takes note of an option. Help and version take effect at once, and a flag must be new on its
side of the verb. -/
def apply (position : Position) (flags : Flags) : Switch → Except Rejection Flags
  | .help => .error (.help position)
  | .version => .error (.version position)
  | .flag flag => if flags.has flag then .error (.repeated flag) else .ok (flags.add flag)

/-- The complaint about an unknown option. The tip to escape it is given only where words are
values, and only if no option is similar. -/
def unknownOption (position : Position) (word : String) (similar : Option String) : Rejection :=
  match similar, position with
  | some written, _ => .unexpected word (.similar written)
  | none, some _ => .unexpected word .escape
  | none, none => .unexpected word .none

/-- Reads a long option. `settle` is the complaint, if any, about the value before it: an option
that takes effect settles that value first, and a complaint about the option itself goes before. -/
def applyLong (position : Position) (settle : Except Rejection Unit) (flags : Flags)
    (name : List Glyph) (value : Option (List Glyph)) : Except Rejection Flags :=
  match Switch.ofName? name, value with
  -- No option takes a value.
  | some switch, some value => .error (.unexpectedValue (Text.shown value) switch)
  | some switch, none => do
    settle
    apply position flags switch
  | none, _ =>
    .error (unknownOption position ("--" ++ Text.shown name) (Switch.similar? (Text.shown name)))

/-- Reads options that are joined behind one dash, from left to right. -/
def applyLetters (position : Position) (settle : Except Rejection Unit) (flags : Flags) :
    List Glyph → Except Rejection Flags
  | [] => .ok flags
  | letter :: rest =>
    match Switch.ofLetter? letter with
    | some switch => do
      settle
      let flags ← apply position flags switch
      applyLetters position settle flags rest
    | none =>
      -- Bytes that are no text end the group, so all that is left of it is named.
      let unknown := if letter.isSome then [letter] else letter :: rest
      .error (unknownOption position ("-" ++ Text.shown unknown) none)

/-- The words of a verb as far as they are read. -/
structure Progress where
  flags : Flags := {}
  /-- The values that were found to be in order. -/
  settled : List Word := []
  /-- The latest value, which is looked at when something follows it. -/
  waiting : Option Word := none
  /-- Whether two dashes were read. -/
  escaped : Bool := false

namespace Progress

/-- Looks at a value: all but a local path must be text, and a local path must not be empty. -/
def check (parameter : Parameter) (value : Word) : Except Rejection Unit :=
  if parameter.isPath then
    if value.isEmpty then .error (.emptyValue parameter) else .ok ()
  else
    if value.text?.isSome then .ok () else .error .notText

/-- Looks at the waiting value, if there is one. -/
def settle (verb : Verb) (progress : Progress) : Except Rejection Progress :=
  match progress.waiting with
  | none => .ok progress
  | some value =>
    -- The place of a value decides what it must be.
    match verb.parameters[progress.settled.length]? with
    | none => .ok progress
    | some parameter => do
      check parameter value
      return { progress with settled := progress.settled ++ [value], waiting := none }

/-- How many values were read. -/
def count (progress : Progress) : Nat := progress.settled.length + progress.waiting.toList.length

/-- Takes a word as a value. One too many is refused before the value before it is looked at. -/
def takeValue (verb : Verb) (progress : Progress) (word : Word) : Except Rejection Progress :=
  if progress.count < verb.parameters.length then do
    -- The value before it is followed by something now, so it is looked at.
    let progress ← progress.settle verb
    return { progress with waiting := some word }
  else .error (.unexpected word.display .none)

/-- Reads a word after a verb. -/
def read (verb : Verb) (progress : Progress) (word : Word) : Except Rejection Progress :=
  if progress.escaped then progress.takeValue verb word
  else
    -- What an option finds wrong with the value before it is known before the option is read.
    let settled := (progress.settle verb).map fun _ => ()
    match Reading.ofGlyphs word.glyphs with
    | .escape => .ok { progress with escaped := true }
    | .long name value => do
      let flags ← applyLong (some verb) settled progress.flags name value
      let progress ← progress.settle verb
      return { progress with flags }
    | .letters group => do
      let flags ← applyLetters (some verb) settled progress.flags group
      let progress ← progress.settle verb
      return { progress with flags }
    | .plain => progress.takeValue verb word

end Progress

/-- The operation that a verb makes of its values. -/
def operationOf? : Verb → List Word → Option Operation
  | .put, [source, bucket, key] => do
    return .put source ⟨← bucket.text?, ← key.text?⟩
  | .list, [bucket] => do return .list (← bucket.text?) none
  | .list, [bucket, keyPrefix] => do return .list (← bucket.text?) (some (← keyPrefix.text?))
  | .remove, [bucket, key] => do return .remove ⟨← bucket.text?, ← key.text?⟩
  | _, _ => none

/-- Reads the words after a verb. -/
def parseVerb (verb : Verb) (words : List Word) : Except Rejection (Flags × Operation) := do
  let progress ← words.foldlM (Progress.read verb) {}
  -- The end of the line follows the last value.
  let progress ← progress.settle verb
  match operationOf? verb progress.settled with
  | some operation => return (progress.flags, operation)
  | none =>
    throw (.missing ((verb.parameters.drop progress.settled.length).filter Parameter.required))

/-- A verb that the program does not know takes all words after it as they are. -/
def parseUnknown (flags : Flags) (verb : Word) (words : List Word) :
    Except Rejection Invocation :=
  match verb.text?, words.mapM Word.text? with
  | some verb, some words => .ok ⟨flags, .unknown verb words⟩
  | _, _ => .error .notText

/-- The complaint about a command line that ends before a verb. -/
def parseNothing (flags : Flags) : Rejection :=
  if flags = {} then .nothing else .missingVerb

/-- Reads the words up to a verb, and then those after it. -/
def parseFrom (flags : Flags) : List Word → Except Rejection Invocation
  | [] => .error (parseNothing flags)
  | word :: rest =>
    match Verb.ofWord? word with
    | some verb => do
      -- A flag may stand on both sides of the verb, once on each.
      let (own, operation) ← parseVerb verb rest
      return ⟨flags.union own, .operation operation⟩
    | none =>
      match Reading.ofGlyphs word.glyphs with
      -- Behind two dashes every word is a verb that the program does not know.
      | .escape =>
        match rest with
        | [] => .error (parseNothing flags)
        | verb :: words => parseUnknown flags verb words
      | .long name value => do
        let flags ← applyLong none (.ok ()) flags name value
        parseFrom flags rest
      | .letters group => do
        let flags ← applyLetters none (.ok ()) flags group
        parseFrom flags rest
      | .plain => parseUnknown flags word rest

/-- Reads the words of a command line after the program's name. -/
def parse (words : List Word) : Except Rejection Invocation := parseFrom {} words

end ObjectStorage.CommandLine
