import ObjectStorage.StorageError

/-! The statuses that the program exits with. -/

namespace ObjectStorage

/-- How a run of the program ended. -/
inductive ExitStatus where
  | success
  | generalError
  | usageError
  | networkError
  | authenticationError
  | notFound
  deriving DecidableEq, Repr

namespace ExitStatus

/-- The number that the operating system is given. -/
def code : ExitStatus → Nat
  | .success => 0
  | .generalError => 1
  | .usageError => 2
  | .networkError => 3
  | .authenticationError => 4
  | .notFound => 5

/-- The status with a given number. -/
def ofCode? : Int → Option ExitStatus
  | 0 => some .success
  | 1 => some .generalError
  | 2 => some .usageError
  | 3 => some .networkError
  | 4 => some .authenticationError
  | 5 => some .notFound
  | _ => none

/-- The status that reports an error: the one with the error's exit code. -/
def ofError (error : StorageError) : ExitStatus :=
  (ofCode? error.exitCode).getD .generalError

/-- What a status means. -/
def description : ExitStatus → String
  | .success => "Operation completed successfully"
  | .generalError => "General error"
  | .usageError => "Invalid arguments or configuration"
  | .networkError => "Network error"
  | .authenticationError => "Authentication or permission failure"
  | .notFound => "Resource not found"

/-- A status with its number. -/
def display (status : ExitStatus) : String := s!"{status.description} ({status.code})"

end ExitStatus

end ObjectStorage
