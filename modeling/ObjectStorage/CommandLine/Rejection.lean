import ObjectStorage.CommandLine.Help
import ObjectStorage.Text.Control

/-! What a command line is answered with when it does not lead to a command. -/

namespace ObjectStorage.CommandLine

open Text (uncontrolled)

/-- A hint that follows a complaint about an unexpected word. -/
inductive Tip where
  | none
  /-- An option that was probably meant. -/
  | similar (written : String)
  /-- The word can be given as a value behind two dashes. -/
  | escape

/-- Why a command line does not lead to a command. -/
inductive Rejection where
  /-- The help page was asked for. -/
  | help (topic : Topic)
  /-- The version was asked for. -/
  | version (topic : Topic)
  /-- Nothing was asked for at all. -/
  | nothing
  /-- There are options but no verb. -/
  | missingVerb
  /-- A flag stands twice on one side of the verb. -/
  | repeated (flag : Flag)
  /-- An option has a value that it does not take. -/
  | unexpectedValue (value : String) (switch : Switch)
  /-- An option is unknown, or a word is one too many. -/
  | unexpected (word : String) (tip : Tip)
  /-- Values that a verb needs are missing. -/
  | missing (parameters : List Parameter)
  /-- A local path is empty. -/
  | emptyValue (parameter : Parameter)
  /-- A word that has to be text is none. -/
  | notText

namespace Rejection

/-- The line of a tip, after an empty one. -/
def tipText (word : String) : Tip → String
  | .none => ""
  | .similar written => "\n\n  tip: a similar argument exists: '" ++ written ++ "'"
  | .escape => "\n\n  tip: to pass '" ++ word ++ "' as a value, use '-- " ++ word ++ "'"

/-- The text of a rejection, without the reminder of the usage. What it repeats of the command
line has its controls left out, so that no word can command the terminal. -/
def message : Rejection → String
  | .help topic => helpPage topic
  | .version topic => versionLine topic
  | .nothing => helpPage none
  | .missingVerb =>
    "error: '" ++ programName ++ "' requires a subcommand but one was not provided\n"
      ++ "  [subcommands: " ++ ", ".intercalate (Verb.all.map Verb.name) ++ "]"
  | .repeated flag =>
    "error: the argument '" ++ (Switch.flag flag).written ++ "' cannot be used multiple times"
  | .unexpectedValue value switch =>
    "error: unexpected value '" ++ uncontrolled value ++ "' for '" ++ switch.written
      ++ "' found; no more were expected"
  | .unexpected word tip =>
    -- The tip repeats the word too.
    let word := uncontrolled word
    "error: unexpected argument '" ++ word ++ "' found" ++ tipText word tip
  | .missing parameters =>
    "error: the following required arguments were not provided:"
      ++ String.join (parameters.map fun parameter => "\n  " ++ parameter.column)
  | .emptyValue parameter =>
    "error: a value is required for '" ++ parameter.column ++ "' but none was supplied"
  | .notText => "error: invalid UTF-8 was detected in one or more arguments"

/-- Whether the rejection is what was asked for, and not an error. -/
def isAnswer : Rejection → Bool
  | .help _ => true
  | .version _ => true
  | _ => false

/-- The exit code for a rejection. -/
def exitCode (rejection : Rejection) : Nat := if rejection.isAnswer then 0 else 2

end Rejection

end ObjectStorage.CommandLine
