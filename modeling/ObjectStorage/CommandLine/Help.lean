import ObjectStorage.CommandLine.Command

/-! The help pages and version lines of the program. -/

namespace ObjectStorage.CommandLine

/-- The program's name. -/
def programName : String := "lobj"

/-- The program's version. -/
def programVersion : String := "0.1.0"

/-- What the program is. -/
def programAbout : String := "A small command-line client for Linode Object Storage"

/-- Fills a text up with blanks behind it. -/
def padded (text : String) (width : Nat) : String :=
  text ++ String.ofList (List.replicate (width - text.length) ' ')

/-- A titled table of a help page, its second column aligned. -/
def table (title : String) (rows : List (String × String)) : String :=
  let width := (rows.map (·.1.length)).foldl max 0
  title ++ ":\n" ++ String.join (rows.map fun (left, right) =>
    "  " ++ padded left width ++ "  " ++ right ++ "\n")

/-- What an option does. -/
def Switch.about : Switch → String
  | .flag .json => "Output format: human-readable or JSON"
  | .flag .noColor => "Disable colored output"
  | .flag .quiet => "Suppress non-error output"
  | .flag .debug => "Enable debug logging"
  | .help => "Print help"
  | .version => "Print version"

/-- An option in a table: its letter, or as much blank, and its long name. -/
def Switch.column (switch : Switch) : String :=
  match switch.letter? with
  | some letter => "-" ++ letter.toString ++ ", " ++ switch.written
  | none => "    " ++ switch.written

/-- The table of all options. -/
def optionTable : String :=
  table "Options" (Switch.all.map fun switch => (switch.column, switch.about))

/-- A parameter in a table or a usage line: in brackets of the kind that tells whether it may be
left out. -/
def Parameter.column (parameter : Parameter) : String :=
  if parameter.required then "<" ++ parameter.name ++ ">" else "[" ++ parameter.name ++ "]"

/-- What a help page or a version line is about: the program, or one of its verbs. -/
abbrev Topic := Option Verb

/-- The help page of a topic. -/
def helpPage : Topic → String
  | none =>
    programAbout ++ "\n\nUsage: " ++ programName ++ " [OPTIONS] <COMMAND>\n\n"
      ++ table "Commands" (Verb.all.map fun verb => (verb.name, verb.about))
      ++ "\n" ++ optionTable
  | some verb =>
    let columns := verb.parameters.map fun parameter => (parameter.column, parameter.about)
    verb.about ++ "\n\nUsage: " ++ programName ++ " " ++ verb.name ++ " [OPTIONS] "
      ++ " ".intercalate (columns.map (·.1)) ++ "\n\n"
      ++ table "Arguments" columns ++ "\n" ++ optionTable

/-- The version line of a topic. -/
def versionLine : Topic → String
  | none => programName ++ " " ++ programVersion ++ "\n"
  | some verb => programName ++ "-" ++ verb.name ++ " " ++ programVersion ++ "\n"

end ObjectStorage.CommandLine
