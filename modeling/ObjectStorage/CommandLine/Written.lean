import ObjectStorage.CommandLine.Command

/-! Command lines for operations: two dashes stand before the values, so that none of them is taken
for an option. -/

namespace ObjectStorage.CommandLine

/-- The verb of an operation. -/
def Operation.verb : Operation → Verb
  | .put _ _ => .put
  | .list _ _ => .list
  | .remove _ => .remove

/-- The values of an operation, in the order in which its verb takes them. -/
def Operation.values : Operation → List Word
  | .put source target => [source, .text target.bucket, .text target.key]
  | .list bucket keyPrefix => .text bucket :: (keyPrefix.map Word.text).toList
  | .remove target => [.text target.bucket, .text target.key]

/-- Whether an operation can be asked for: a local path must not be empty. -/
def Operation.isWritable : Operation → Bool
  | .put source _ => !source.isEmpty
  | _ => true

/-- A flag as a word. -/
def Flag.word (flag : Flag) : Word := .text (Switch.flag flag).written

/-- A flag as it is written: by its name, or by its letter if it has one and is to be brief. -/
structure Spelling where
  flag : Flag
  brief : Bool
  deriving DecidableEq

/-- The word that a flag is written as. -/
def Spelling.word (spelling : Spelling) : Word :=
  match spelling.brief, (Switch.flag spelling.flag).letter? with
  | true, some letter => .text (String.ofList ['-', letter])
  | _, _ => spelling.flag.word

/-- The flags of a list. -/
def Flags.ofList (flags : List Flag) : Flags := flags.foldl Flags.add {}

/-- The words that give a verb all the words behind it as they are, with some flags in front. -/
def escaped (flags : List Spelling) (verb : Verb) (words : List Word) : List Word :=
  flags.map Spelling.word ++ .text verb.name :: .text "--" :: words

/-- The words that ask for an operation with some flags. -/
def written (flags : List Spelling) (operation : Operation) : List Word :=
  escaped flags operation.verb operation.values

end ObjectStorage.CommandLine
