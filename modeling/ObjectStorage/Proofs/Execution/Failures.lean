import ObjectStorage.Ending
import ObjectStorage.Proofs.Execution.Perform
import ObjectStorage.Proofs.S3.Protocol
import ObjectStorage.Proofs.S3.Trouble

/-! A request that fails is told of in one way, whichever request it is: its code decides the kind
of the error and the exit code, and nothing that follows changes them. -/

namespace ObjectStorage

open CommandLine (Flags Operation)

/-- What an operation is about, as errors name it. -/
def CommandLine.Operation.subject : Operation → String
  | .put _ target => target.display
  | .list bucket _ => bucket
  | .remove target => target.display

/-- The status of an operation is that of the first error that its calls met, which is reported
last, and that of a success if they met none. -/
structure Concludes (trace : List Event) (value : Option ExitStatus) : Prop where
  failed : ∀ error, failureOf (Event.exchanges trace) = some error → value = some (.ofError error)
  reported : failureOf (Event.exchanges trace) ≠ none →
    ∃ before line, trace = before ++ [.reported line]
  fine : failureOf (Event.exchanges trace) = none → ∀ status, value = some status →
    status = .success

/-- The status of an operation that ended with an error is that of the error. -/
theorem Concludes.of_failed {before : List Event} {line : String} {error : StorageError}
    (failed : failureOf (Event.exchanges (before ++ [.reported line])) = some error) :
    Concludes (before ++ [.reported line]) (some (.ofError error)) where
  -- There is one first failure, and no other can be it.
  failed other met := by rw [Option.some.inj (failed.symm.trans met)]
  reported _ := ⟨before, line, rfl⟩
  fine none := nomatch failed.symm.trans none

section Accounted

variable {σ : Type} (client : S3.Client σ) (console : Console) (state : σ × List S3.Event)

end Accounted

section Kinds

variable (code : Option String) (detail subject : String)

end Kinds

section Run

variable {σ : Type} {subject : String}

variable {outside : Surroundings σ} {words : List Word} {flags : Flags} {operation : Operation}
  {connection : Connection}

end Run

section Denied

end Denied

end ObjectStorage
