import ObjectStorage.CommandLine.Option
import ObjectStorage.ObjectRef
import ObjectStorage.Text.Word

/-! What a command line asks for. -/

namespace ObjectStorage.CommandLine

/-- The verbs of the program. -/
inductive Verb where
  | put
  | list
  | remove
  deriving DecidableEq, Repr

/-- A value that a verb takes. -/
structure Parameter where
  name : String
  about : String
  required : Bool := true
  /-- Whether the value is a local path, which may be any bytes but not empty. -/
  isPath : Bool := false

namespace Verb

/-- The verbs in the order in which they are declared. -/
def all : List Verb := [.put, .list, .remove]

/-- A verb as it is written. -/
def name : Verb → String
  | .put => "put"
  | .list => "ls"
  | .remove => "rm"

/-- The verb that a word is. -/
def ofWord? (word : Word) : Option Verb :=
  all.find? fun verb => word.text? == some verb.name

/-- What a verb does. -/
def about : Verb → String
  | .put => "Upload a local file to bucket/key"
  | .list => "List keys under a prefix"
  | .remove => "Remove an object"

/-- The values that a verb takes, in order. -/
def parameters : Verb → List Parameter
  | .put =>
    [{ name := "LOCAL_PATH", about := "Local file to upload", isPath := true },
     { name := "BUCKET", about := "Destination bucket" },
     { name := "KEY", about := "Destination object key" }]
  | .list =>
    [{ name := "BUCKET", about := "Bucket to list" },
     { name := "PREFIX", required := false,
       about := "Only list keys starting with this prefix (default: whole bucket)" }]
  | .remove =>
    [{ name := "BUCKET", about := "Bucket holding the object" },
     { name := "KEY", about := "Exact object key" }]

end Verb

/-- The flags that are set. -/
structure Flags where
  json : Bool := false
  noColor : Bool := false
  quiet : Bool := false
  debug : Bool := false
  deriving DecidableEq, Repr

namespace Flags

/-- Whether a flag is set. -/
def has (flags : Flags) : Flag → Bool
  | .json => flags.json
  | .noColor => flags.noColor
  | .quiet => flags.quiet
  | .debug => flags.debug

/-- Sets a flag. -/
def add (flags : Flags) : Flag → Flags
  | .json => { flags with json := true }
  | .noColor => { flags with noColor := true }
  | .quiet => { flags with quiet := true }
  | .debug => { flags with debug := true }

/-- The flags that are set in either of two. -/
def union (first second : Flags) : Flags where
  json := first.json || second.json
  noColor := first.noColor || second.noColor
  quiet := first.quiet || second.quiet
  debug := first.debug || second.debug

end Flags

/-- An operation on the object storage. -/
inductive Operation where
  | put (source : Word) (target : ObjectRef)
  | list (bucket : String) (keyPrefix : Option String)
  | remove (target : ObjectRef)
  deriving DecidableEq

/-- What a command line names: an operation, or a verb that the program does not know with the words
after it. -/
inductive Command where
  | operation (operation : Operation)
  | unknown (verb : String) (words : List String)
  deriving DecidableEq

/-- A command line that was understood. -/
structure Invocation where
  flags : Flags
  command : Command
  deriving DecidableEq

end ObjectStorage.CommandLine
