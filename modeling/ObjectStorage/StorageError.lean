import ObjectStorage.Text.Word

/-! What can go wrong: local files, settings and the storage service. -/

namespace ObjectStorage

/-- Why a local file could not be used. -/
inductive FileFault where
  | missing
  | notDirectory
  | isDirectory
  | nameTooLong
  | nulInName
  | notRegular (path : Word)
  | other (text : String)

/-- The text of a file fault, in the words of the operating system where it reported the fault. -/
def FileFault.message : FileFault → String
  | .missing => "No such file or directory (os error 2)"
  | .notDirectory => "Not a directory (os error 20)"
  | .isDirectory => "Is a directory (os error 21)"
  | .nameTooLong => "File name too long (os error 36)"
  | .nulInName => "file name contained an unexpected NUL byte"
  | .notRegular path => path.display ++ " is not a regular file"
  | .other text => text

/-- Why an operation on the object storage failed. -/
inductive StorageError where
  | configuration (reason : String)
  | file (fault : FileFault)
  | authentication (reason : String)
  | notFound (what : String)
  | network (reason : String)
  | general (reason : String)

namespace StorageError

/-- The text of an error. -/
def message : StorageError → String
  | .configuration reason => "Configuration error: " ++ reason
  | .file fault => "IO error: " ++ fault.message
  | .authentication reason => "Authentication failed: " ++ reason
  | .notFound what => "Not found: " ++ what
  | .network reason => "Network error: " ++ reason
  | .general reason => reason

/-- The exit code that tells an error's kind. -/
def exitCode : StorageError → Nat
  | .configuration _ => 2
  | .network _ => 3
  | .authentication _ => 4
  | .notFound _ => 5
  | .file _ => 1
  | .general _ => 1

end StorageError

end ObjectStorage
