import ObjectStorage.Text.Glyph
import ObjectStorage.Text.Similarity

/-! The options of the program and how they are written on a command line. -/

namespace ObjectStorage.CommandLine

open Text (Glyph)

/-- An option that changes how the program works, on every command alike. -/
inductive Flag where
  | json
  | noColor
  | quiet
  | debug
  deriving DecidableEq, Repr

/-- An option of the program. -/
inductive Switch where
  | flag (flag : Flag)
  | help
  | version
  deriving DecidableEq, Repr

namespace Switch

/-- The options in the order in which they are declared. -/
def all : List Switch :=
  [.flag .json, .flag .noColor, .flag .quiet, .flag .debug, .help, .version]

/-- The long name of an option, without its dashes. -/
def name : Switch → String
  | .flag .json => "json"
  | .flag .noColor => "no-color"
  | .flag .quiet => "quiet"
  | .flag .debug => "debug"
  | .help => "help"
  | .version => "version"

/-- The letter of an option, if it has one. -/
def letter? : Switch → Option Char
  | .flag .quiet => some 'q'
  | .help => some 'h'
  | .version => some 'V'
  | .flag _ => none

/-- The option with a given long name. -/
def ofName? (name : List Glyph) : Option Switch :=
  all.find? fun switch => switch.name.toList.map some == name

/-- The option with a given letter. -/
def ofLetter? (letter : Glyph) : Option Switch :=
  all.find? fun switch => letter.isSome && switch.letter? == letter

/-- The long name of an option as it is written. -/
def written (switch : Switch) : String := "--" ++ switch.name

/-- The option whose long name is most like a misspelt one. -/
def similar? (misspelt : String) : Option String :=
  (Text.mostSimilar misspelt (all.map name)).map ("--" ++ ·)

end Switch

/-- How a word reads where options are allowed. -/
inductive Reading where
  /-- Two dashes: all words after them are taken as they are. -/
  | escape
  /-- A long option, perhaps with a value behind an equals sign. -/
  | long (name : List Glyph) (value : Option (List Glyph))
  /-- Letters behind a dash, each an option. -/
  | letters (group : List Glyph)
  /-- No option. A single dash is none. -/
  | plain
  deriving DecidableEq

/-- Splits a long option at its first equals sign. -/
def splitValue (body : List Glyph) : Reading :=
  -- The name stops at the equals sign; behind it a value may be empty.
  .long (body.takeWhile (· != some '=')) <|
    match body.dropWhile (· != some '=') with
    | [] => none
    | _ :: value => some value

/-- Reads a word. -/
def Reading.ofGlyphs : List Glyph → Reading
  | [some '-', some '-'] => .escape
  | some '-' :: some '-' :: body => splitValue body
  | some '-' :: first :: others => .letters (first :: others)
  | _ => .plain

end ObjectStorage.CommandLine
