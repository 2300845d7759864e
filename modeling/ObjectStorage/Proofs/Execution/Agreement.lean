import ObjectStorage.Proofs.Execution.Perform

/-! The exit status, standard error and standard output of a command tell the same of its calls. -/

namespace ObjectStorage

open CommandLine (Operation)

namespace CommandLine.Operation

/-- What a command has shown when a call fails: a listing has written a line for every entry that
was fetched, unless it is quiet, and no other command has shown anything. -/
def shown (style : Style) (made : List Exchange) : Operation → String
  | .list _ _ => if style.quiet then "" else printed style.json (itemsOf made)
  | _ => ""

end CommandLine.Operation

/-- How a run of a command that is given all the output it wants tells of its calls. -/
structure Agrees {σ : Type} (style : Style) (operation : Operation)
    (outcome : Outcome Event σ (Option ExitStatus)) : Prop where
  /-- The exit code is that of a success just if no call failed. -/
  exit : ∀ status, outcome.value = some status →
    (status.code = 0 ↔ ∀ exchange ∈ Event.exchanges outcome.events, exchange.failure? = none)
  silent : (∀ exchange ∈ Event.exchanges outcome.events, exchange.failure? = none) →
    Event.standardError outcome.events = ""
  /-- A call that fails is the last, and its error is reported on all channels. -/
  failed : ∀ earlier exchange later error,
    Event.exchanges outcome.events = earlier ++ exchange :: later →
    exchange.failure? = some error →
    later = [] ∧
      outcome.value = some (.ofError error) ∧ (ExitStatus.ofError error).code = error.exitCode ∧
      Event.standardError outcome.events =
        style.errorLine (operation.complaint ++ error.message) ++ "\n" ∧
      Event.standardOutput outcome.events = operation.shown style earlier

section Agrees

variable {σ : Type} {style : Style} {operation : Operation} {state : σ} {served : List Event}

/-- A run whose last call failed agrees if it reports the error. -/
theorem Agrees.of_failed {made : List Exchange} {last : Exchange} {error : StorageError}
    (serves : ∀ event ∈ served, event.serving = true)
    (calls : Event.exchanges served = made ++ [last]) (fine : failureOf made = none)
    (failure : last.failure? = some error)
    (shown : Event.standardOutput served = operation.shown style made) :
    Agrees style operation (⟨some (.ofError error), state,
      served ++ [.reported (style.errorLine (operation.complaint ++ error.message))]⟩ :
        Outcome Event σ _) := by
  -- The report is no call, so the calls are those that were served.
  have reported (line : String) :
      Event.exchanges (served ++ [.reported line]) = made ++ [last] := by
    rw [Event.exchanges_append, calls]
    exact List.append_nil _
  have broken : ¬ ∀ exchange ∈ made ++ [last], exchange.failure? = none := fun each =>
    nomatch failure.symm.trans (each last (by simp))
  -- The first two fields are about runs without a failure, and this run has one.
  refine ⟨fun status ended => ?_, fun each => ?_, fun earlier exchange later other split met => ?_⟩
  · rw [reported, ← Option.some.inj ended, ExitStatus.code_ofError]
    exact iff_of_false error.exitCode_ne_zero broken
  · rw [reported] at each
    exact absurd each broken
  · rw [reported] at split
    -- A call with an error cannot stand in front of the last.
    obtain ⟨rfl, rfl, rfl⟩ : made = earlier ∧ last = exchange ∧ later = [] := by
      rcases List.eq_nil_or_concat later with rfl | ⟨front, final, rfl⟩
      · simpa using split
      · rw [List.concat_eq_append, ← List.cons_append, ← List.append_assoc] at split
        have member : exchange ∈ made := by simp [(List.append_inj' split rfl).1]
        exact nomatch met.symm.trans (List.findSome?_eq_none_iff.mp fine exchange member)
    obtain rfl : error = other := Option.some.inj (failure.symm.trans met)
    refine ⟨rfl, rfl, ExitStatus.code_ofError error, ?_, ?_⟩
    -- The report is all of standard error, and no part of standard output.
    · rw [Event.standardError_eq, Event.reports_append, Event.reports_eq_nil serves]
      simp [Event.reports, String.join]
    · rw [Event.standardOutput_append, shown]
      simp [Event.standardOutput, Event.output, String.join]

end Agrees

section Perform

variable {σ : Type} (store : Store σ) (style : Style) (state : σ)

section List

variable (fuel : Nat) (bucket : String) (keyPrefix : Option String)

end List

end Perform

end ObjectStorage
