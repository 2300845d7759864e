import ObjectStorage.Json.Value

/-! How the program shows results and errors. -/

namespace ObjectStorage

/-- The choices that a user has about what is shown. -/
structure Style where
  /-- Results and errors are JSON, a line each. -/
  json : Bool := false
  noColor : Bool := false
  /-- Results are not shown. -/
  quiet : Bool := false
  deriving DecidableEq, Repr

/-- A line that is shown: a result on standard output, or an error on standard error. -/
inductive Shown where
  | result (line : String)
  | error (line : String)
  deriving DecidableEq

namespace Style

/-- Whether errors are marked in color. -/
def colored (style : Style) : Bool := !style.noColor && !style.json

/-- The line that reports an error. Errors are shown in quiet mode too. -/
def errorLine (style : Style) (message : String) : String :=
  if style.json then (Json.object [("error", .string message)]).text
  else if style.colored then "\x1b[31m✗\x1b[0m " ++ message
  else "✗ " ++ message

/-- The line for a JSON document, or for the reason that it has no text; none in quiet mode. -/
def document (style : Style) (document : Except String Json) : Option Shown :=
  if style.quiet then none
  else
    match document with
    | .ok value => some (.result value.text)
    | .error reason => some (.error ("Error serializing output: " ++ reason))

end Style

end ObjectStorage
