import ObjectStorage.Ending
import ObjectStorage.S3.Http

/-! The program: it hands over its words, its environment and the file that it shall upload, and
prints the trace of the run. No transport is linked, so no message to a service gets through. -/

namespace ObjectStorage.Terminal

/-- What is at a local path. -/
def look (path : String) : IO (Except FileFault FileNode) :=
  if path.contains '\x00' then return .error .nulInName
  else
    try
      return .ok (.file (← IO.FS.readBinFile path))
    catch
      | .noFileOrDirectory .. => return .error .missing
      -- A directory is opened but cannot be read, and then the error names no path.
      | .inappropriateType none _ _ => return .ok .directory
      | .inappropriateType (some _) _ _ => return .error .notDirectory
      | .invalidArgument .. => return .error .nameTooLong
      | error => return .error (.other (toString error))

/-- The local file that a command line names. -/
def source? (words : List Word) : Option Word :=
  match CommandLine.parse words with
  | .ok ⟨_, .operation (.put source _)⟩ => some source
  | _ => none

/-- The local files that a run looks at: none but the one to be uploaded. -/
def filesFor (words : List Word) : IO Snapshot := do
  match source? words with
  | some (.text path) =>
    let found ← look path
    return fun asked => if asked = .text path then found else .error .missing
  | _ => return fun _ => .error .missing

/-- The settings in the environment. -/
def settings : IO (Except StorageError Connection) := do
  let cluster ← IO.getEnv Connection.clusterVariable
  let accessKey ← IO.getEnv Connection.accessKeyVariable
  let secretKey ← IO.getEnv Connection.secretKeyVariable
  let known := [(Connection.clusterVariable, cluster), (Connection.accessKeyVariable, accessKey),
    (Connection.secretKeyVariable, secretKey)]
  return (Connection.fromEnvironment fun name => (known.lookup name).join).result

/-- What a connection leads to over a line that is cut. The program shows no time of day, so the
clock may stand still. -/
def storage (files : Snapshot) (connection : Connection) : Store (Unit × List S3.Event) :=
  let line : S3.Line Unit := .cut "no transport is available"
  S3.Client.store
    ⟨line.service (.ofConnection connection), files.machine (.ofParts 0 0), {}⟩

/-- More entries than a listing can have. -/
def patience : Nat := 4611686018427387904

/-- A text that ends its line, if it has one. -/
def ended (text : String) : String :=
  if text.isEmpty || text.endsWith "\n" then text else text ++ "\n"

/-- Runs the program on the words of a command line, prints what it shows, and gives its exit
code. -/
def run (words : List Word) : IO UInt32 := do
  let output ← IO.getStdout
  let errors ← IO.getStderr
  let files ← filesFor words
  let outside : Surroundings (Unit × List S3.Event) :=
    { settings := ← settings
      connect := fun connection => .ok (storage files connection)
      errorTerminal := ← errors.isTty }
  let outcome := (runProgram outside patience words).run ((), [])
  match Ending.ofOutcome outcome with
  | some ending =>
    output.putStr (ended ending.output)
    errors.putStr (ended ending.errors)
    return UInt32.ofNat ending.code
  | none => return UInt32.ofNat ExitStatus.generalError.code

end ObjectStorage.Terminal

def main (arguments : List String) : IO UInt32 :=
  ObjectStorage.Terminal.run (arguments.map ObjectStorage.Word.text)
