import ObjectStorage.Proofs.CommandLine.Values
import ObjectStorage.Proofs.Execution.Perform

/-! A run of the program goes one of five ways: each stage is reached only if all stages before it
went well, and only the last one calls the store. -/

namespace ObjectStorage

open CommandLine (LeadsTo Operation Rejection)

/-- Whether an operation may make these calls: an upload or a deletion is one call, and a listing
fetches pages of its keys only. -/
def CommandLine.Operation.Makes (calls : List StoreCall) : Operation → Prop
  | .put source target => calls = [.putFile source target]
  | .list bucket keyPrefix =>
    ∀ call ∈ calls, ∃ token, call = .listPage bucket (keyPrefix.getD "") token
  | .remove target => calls = [.delete target]

/-- The variables of the settings, in the order in which they are asked for. -/
def Connection.needed : List String := [clusterVariable, accessKeyVariable, secretKeyVariable]

/-- The first variable of the settings that is missing. -/
def Connection.firstMissing? (lookup : String → Option String) : Option String :=
  needed.find? fun name => (lookup name).isNone

/-- Reading the settings fails just if a variable is missing, and tells of the first. -/
theorem Connection.result_eq_error_iff {lookup : String → Option String} {error : StorageError} :
    (fromEnvironment lookup).result = .error error ↔
      ∃ missing, firstMissing? lookup = some missing ∧ error = notSet missing := by
  unfold fromEnvironment firstMissing? needed
  -- A variable is asked for only if those before it are there.
  cases cluster : lookup clusterVariable with
  | none => simp [cluster, eq_comm]
  | some value =>
    cases accessKey : lookup accessKeyVariable with
    | none => simp [cluster, accessKey, eq_comm]
    | some value =>
      cases secretKey : lookup secretKeyVariable with
      | none => simp [cluster, accessKey, secretKey, eq_comm]
      | some value => simp [cluster, accessKey, secretKey]

/-- Serving a command is no part of the set-up. -/
theorem Event.settingUp_of_serving {event : Event} (serves : event.serving = true) :
    event.settingUp = false := by
  -- Serving is calling and writing, and neither of them sets anything up.
  cases event with
  | loaded result => exact nomatch serves
  | connected connection refusal => exact nomatch serves
  | called exchange => rfl
  | wrote line accepted => rfl
  | reported line => exact nomatch serves

section Makes

variable {σ : Type} (store : Store σ) (console : Console) (fuel : Nat) (state : σ)

/-- A command that makes one call makes no other, and sets nothing up. -/
theorem makes_single (complaint : String) (call : StoreCall) (document : call.Reply → Json) :
    let outcome := (single store console complaint call document).run state
    (Event.exchanges outcome.events).map Exchange.call = [call] ∧
      ∀ event ∈ outcome.events, event.settingUp = false := by
  -- Whatever the answer is, the call is made once.
  cases answered : store.answer call state with
  | mk answer next =>
    cases answer with
    | ok reply =>
      obtain ⟨served, run, serving, calls⟩ :=
        run_single_ok store console state complaint document answered
      rw [run]
      refine ⟨by simp [calls], fun event member => ?_⟩
      exact Event.settingUp_of_serving (serving event member)
    | error error =>
      -- The report behind the call is neither a call nor a part of the set-up.
      rw [run_single_failed store console state complaint document answered]
      refine ⟨rfl, ?_⟩
      simp [Event.settingUp]

/-- A listing command fetches pages and sets nothing up. -/
theorem makes_list (bucket : String) (keyPrefix : Option String) :
    let outcome := (perform store console fuel (.list bucket keyPrefix)).run state
    (∀ exchange ∈ Event.exchanges outcome.events,
      ∃ token, exchange.call = .listPage bucket (keyPrefix.getD "") token) ∧
      ∀ event ∈ outcome.events, event.settingUp = false := by
  -- The fetches of a listing are those of a walk, and all of them are for one prefix.
  obtain ⟨steps, last, walks, -⟩ := walks_listed store console fuel state bucket keyPrefix
  have serving := (offered_listed store console fuel state bucket keyPrefix).serving
  have walked := Listing.walked_walk store bucket (keyPrefix.getD "") steps .first state
  rw [walks] at walked
  rw [run_perform_list]
  cases written : listed store console fuel state bucket keyPrefix with
  | mk value next events =>
    simp only [written] at serving walked
    have apart : ∀ event ∈ events, event.settingUp = false := fun event member =>
      Event.settingUp_of_serving (serving event member)
    -- What is reported behind the listing is neither a call nor a part of the set-up.
    rcases value with _ | error | count
    · simpa using ⟨walked.calls, apart⟩
    · refine ⟨?_, ?_⟩
      · rw [Event.exchanges_append]
        exact List.forall_mem_append.mpr ⟨walked.calls, List.forall_mem_nil _⟩
      · exact List.forall_mem_append.mpr ⟨apart, List.forall_mem_singleton.mpr rfl⟩
    · simpa [concluded] using ⟨walked.calls, apart⟩

/-- An operation makes its calls and sets nothing up. -/
theorem makes_perform (operation : Operation) :
    let outcome := (perform store console fuel operation).run state
    operation.Makes ((Event.exchanges outcome.events).map Exchange.call) ∧
      ∀ event ∈ outcome.events, event.settingUp = false := by
  -- Two of the operations are single calls, and the third is a walk.
  cases operation with
  | put source target =>
    rw [perform_put]
    exact makes_single store console state _ _ _
  | list bucket keyPrefix =>
    obtain ⟨calls, apart⟩ := makes_list store console fuel state bucket keyPrefix
    exact ⟨List.forall_mem_map.mpr calls, apart⟩
  | remove target =>
    rw [perform_remove]
    exact makes_single store console state _ _ _

end Makes

/-- The ways that a run of the program can go. -/
inductive Dispatched {σ : Type} (outside : Surroundings σ) (words : List Word) (state : σ) :
    Outcome Event σ (Except Rejection (Option ExitStatus)) → Prop
  /-- The command line is rejected. -/
  | rejected {rejection : Rejection} (parsed : CommandLine.parse words = .error rejection) :
    Dispatched outside words state ⟨.error rejection, state, []⟩
  /-- The verb is none that the program knows. -/
  | unknown {flags : CommandLine.Flags} {verb : String} {others : List String}
    (parsed : CommandLine.parse words = .ok ⟨flags, .unknown verb others⟩)
    (leads : LeadsTo words (.unknown verb others)) :
    Dispatched outside words state
      ⟨.ok (some .generalError), state, [.reported ("Unknown command: " ++ verb)]⟩
  /-- There are no settings. -/
  | unconfigured {flags : CommandLine.Flags} {operation : Operation} {error : StorageError}
    {status : ExitStatus} (parsed : CommandLine.parse words = .ok ⟨flags, .operation operation⟩)
    (failed : outside.settings = .error error) (code : status.code = error.exitCode) :
    Dispatched outside words state
      ⟨.ok (some status), state,
        [.loaded (.error error), .reported ((outside.style flags).errorLine error.message)]⟩
  /-- There is no connection. -/
  | refused {flags : CommandLine.Flags} {operation : Operation} {connection : Connection}
    {error : StorageError} {status : ExitStatus}
    (parsed : CommandLine.parse words = .ok ⟨flags, .operation operation⟩)
    (loaded : outside.settings = .ok connection)
    (failed : outside.connect connection = .error error) (code : status.code = error.exitCode) :
    Dispatched outside words state
      ⟨.ok (some status), state,
        [.loaded (.ok connection), .connected connection (some error),
          .reported ((outside.style flags).errorLine
            ("Failed to create S3 client: " ++ error.message))]⟩
  /-- The operation is performed, with the words of the command line. -/
  | performed {flags : CommandLine.Flags} {operation : Operation} {connection : Connection}
    {store : Store σ} {ran : Outcome Event σ (Option ExitStatus)}
    (parsed : CommandLine.parse words = .ok ⟨flags, .operation operation⟩)
    (leads : LeadsTo words (.operation operation)) (loaded : outside.settings = .ok connection)
    (connected : outside.connect connection = .ok store)
    (calls : operation.Makes ((Event.exchanges ran.events).map Exchange.call))
    (apart : ∀ event ∈ ran.events, event.settingUp = false) :
    Dispatched outside words state
      ⟨.ok ran.value, ran.state,
        .loaded (.ok connection) :: .connected connection none :: ran.events⟩

section Dispatched

variable {σ : Type} {outside : Surroundings σ} {words : List Word} {state : σ}

/-- Every run goes one of the ways. -/
theorem dispatched_runProgram (outside : Surroundings σ) (fuel : Nat) (words : List Word)
    (state : σ) : Dispatched outside words state ((runProgram outside fuel words).run state) := by
  -- The run is followed stage by stage, and each way ends where a stage fails.
  unfold runProgram
  cases parsed : CommandLine.parse words with
  | error rejection => exact .rejected parsed
  | ok invocation =>
    -- What was understood is what the words lead to.
    have leads := CommandLine.leadsTo_of_parseFrom parsed
    obtain ⟨flags, command⟩ := invocation
    cases command with
    | unknown verb others => exact .unknown parsed leads
    | operation operation =>
      cases loaded : outside.settings with
      -- From here on each stage decides whether the next is reached.
      | error error =>
        simp only [execute, loaded]
        exact .unconfigured parsed loaded (ExitStatus.code_ofError error)
      | ok connection =>
        cases connected : outside.connect connection with
        | error error =>
          simp only [execute, loaded, connected]
          exact .refused parsed loaded connected (ExitStatus.code_ofError error)
        | ok store =>
          obtain ⟨calls, apart⟩ := makes_perform store
            ⟨outside.style flags, outside.room⟩ fuel state operation
          have performed : Dispatched outside words state _ :=
            .performed parsed leads loaded connected calls apart
          simpa [execute, loaded, connected] using performed

/-- Settings that could not be read are told of just if an operation needed them, and then the run
ends with their error. -/
theorem Dispatched.loaded_error_iff
    {outcome : Outcome Event σ (Except Rejection (Option ExitStatus))}
    (dispatched : Dispatched outside words state outcome) (error : StorageError) :
    (Event.loaded (.error error) ∈ outcome.events ↔
      (∃ flags operation, CommandLine.parse words = .ok ⟨flags, .operation operation⟩) ∧
        outside.settings = .error error) ∧
    (Event.loaded (.error error) ∈ outcome.events →
      ∃ status, outcome.value = .ok (some status) ∧ status.code = error.exitCode) := by
  -- Only one of the ways reads settings that are an error.
  cases dispatched with
  | rejected parsed => simp [parsed]
  | unknown parsed leads => simp [parsed]
  | @unconfigured _ _ met status parsed failed code =>
    refine ⟨by simp [parsed, failed, eq_comm], fun member => ⟨status, rfl, ?_⟩⟩
    -- The one error in this trace is that of the settings.
    obtain rfl : error = met := by simpa using member
    exact code
  | refused parsed loaded failed code => simp [loaded]
  | performed parsed leads loaded connected calls apart =>
    -- The settings were read, and the operation does not read them again.
    have absent : Event.loaded (.error error) ∉ _ := fun member => nomatch apart _ member
    simp [loaded, absent]

/-- Every run goes one of the ways, and settings from the environment stop it just if an operation
is asked for and a variable is missing; the first such variable is named. -/
theorem runProgram_goes_one_way (outside : Surroundings σ) (fuel : Nat) (words : List Word)
    (state : σ) :
    Dispatched outside words state ((runProgram outside fuel words).run state) ∧
    ∀ (lookup : String → Option String) (error : StorageError),
      let found := { outside with settings := (Connection.fromEnvironment lookup).result }
      let outcome := (runProgram found fuel words).run state
      (Event.loaded (.error error) ∈ outcome.events ↔
        (∃ flags operation, CommandLine.parse words = .ok ⟨flags, .operation operation⟩) ∧
          ∃ missing, Connection.firstMissing? lookup = some missing ∧
            error = Connection.notSet missing) ∧
      (Event.loaded (.error error) ∈ outcome.events →
        ∃ status, outcome.value = .ok (some status) ∧ status.code = 2) := by
  -- The second part is about the same program with settings from an environment.
  refine ⟨dispatched_runProgram outside fuel words state, fun lookup error => ?_⟩
  dsimp only
  obtain ⟨loaded, ends⟩ := (dispatched_runProgram
    { outside with settings := (Connection.fromEnvironment lookup).result } fuel words
    state).loaded_error_iff error
  rw [Connection.result_eq_error_iff] at loaded
  refine ⟨loaded, fun member => ?_⟩
  -- All errors about the environment are about the configuration.
  obtain ⟨-, missing, -, rfl⟩ := loaded.mp member
  exact ends member

end Dispatched

end ObjectStorage
