import ObjectStorage.Proofs.Listing.Offered

/-! The commands one by one: an upload and a deletion make one call and end with its answer, and a
listing ends as writing it does. -/

namespace ObjectStorage

open CommandLine (Operation)

namespace CommandLine.Operation

/-- What a command says in front of the error that it met. -/
def complaint : Operation → String
  | .put source _ => "Failed to upload " ++ source.display ++ ": "
  | .list bucket keyPrefix => "Failed to list " ++ bucket ++ "/" ++ keyPrefix.getD "" ++ ": "
  | .remove target => "Failed to remove " ++ target.display ++ ": "

end CommandLine.Operation

/-- No error has the exit code of a success. -/
theorem StorageError.exitCode_ne_zero (error : StorageError) : error.exitCode ≠ 0 := by
  -- Each kind of error has a code of its own.
  cases error <;> exact nofun

/-- The status that reports an error has its exit code. -/
theorem ExitStatus.code_ofError (error : StorageError) :
    (ExitStatus.ofError error).code = error.exitCode := by
  -- The codes of statuses and errors are listed side by side.
  cases error <;> rfl

/-- The status that reports an error is not that of a success. -/
theorem ExitStatus.ofError_ne_success (error : StorageError) : ofError error ≠ .success := by
  -- No kind of error is reported as a success.
  cases error <;> exact nofun

/-- Whether an event belongs to the set-up in front of a command. -/
def Event.settingUp : Event → Bool
  | .loaded _ => true
  | .connected _ _ => true
  | _ => false

/-- Where a listing goes. -/
def Console.sink (console : Console) : Sink :=
  if console.style.quiet then .nowhere else .output console.room

variable {σ : Type} (store : Store σ) (console : Console) (fuel : Nat) (state : σ)

/-- A command that makes one call and shows a document for its reply. -/
def single (complaint : String) (call : StoreCall)
    (document : call.Reply → Json) : Session Event σ (Option ExitStatus) := do
  match ← (store.ask Exchange.mk call).mapEvents .called with
  | .ok reply =>
    if console.style.json then
      console.showDocument (document reply)
    return some .success
  | .error error =>
    console.reportError (complaint ++ error.message)
    return some (.ofError error)

/-- An upload is such a command. -/
theorem perform_put (source : Word) (target : ObjectRef) :
    perform store console fuel (.put source target) =
      single store console (Operation.put source target).complaint (.putFile source target)
        (uploadDocument source target) := by
  -- Both commands look at the answer in the same way.
  refine bind_congr fun answer => ?_
  cases answer <;> rfl

/-- A deletion is such a command. -/
theorem perform_remove (target : ObjectRef) :
    perform store console fuel (.remove target) =
      single store console (Operation.remove target).complaint (.delete target)
        fun _ => deletionDocument target := by
  -- Both commands look at the answer in the same way.
  refine bind_congr fun answer => ?_
  cases answer <;> rfl

/-- What a console shows of a reply: a document in the JSON style, unless it is quiet. -/
def Console.showing (console : Console) (document : Json) : List Event :=
  if console.style.json && !console.style.quiet then
    [.wrote document.text (console.room != some 0)]
  else []

/-- What a console shows is part of serving, and no call. -/
theorem Console.showing_serves (document : Json) :
    (∀ event ∈ console.showing document, event.serving = true) ∧
      Event.exchanges (console.showing document) = [] := by
  -- At most one line is shown.
  unfold Console.showing
  split
  · exact ⟨List.forall_mem_singleton.mpr rfl, rfl⟩
  · exact ⟨List.forall_mem_nil _, rfl⟩

/-- In the JSON style a document is shown as far as the console shows anything. -/
theorem run_showDocument (styled : console.style.json = true) (document : Json) :
    (console.showDocument document).run state = ⟨⟨⟩, state, console.showing document⟩ := by
  -- A quiet console shows nothing, and any other shows the one line.
  cases heard : console.style.quiet with
  | true => simp [Console.showDocument, Style.document, Console.showing, heard]
  | false => simp [Console.showDocument, Style.document, Console.showing, heard, styled]

section Single

variable (complaint : String) {call : StoreCall} (document : call.Reply → Json) {next : σ}

/-- A call that goes well is followed by what is shown of its reply. -/
theorem run_single_replied {reply : call.Reply}
    (answered : store.answer call state = (.ok reply, next)) :
    (single store console complaint call document).run state =
      ⟨some .success, next, .called ⟨call, .ok reply⟩ :: console.showing (document reply)⟩ := by
  simp only [single, Session.run_bind, Session.run_mapEvents, Answerer.run_ask, answered]
  -- A document is made in the JSON style only.
  cases styled : console.style.json with
  | true =>
    simp only [if_true, Session.run_bind, run_showDocument console next styled, Session.run_pure,
      List.append_nil]
    rfl
  | false => simp [Console.showing, styled]

/-- A call that goes well is all that is done, but for a document. -/
theorem run_single_ok {reply : call.Reply}
    (answered : store.answer call state = (.ok reply, next)) :
    ∃ served, (single store console complaint call document).run state =
      ⟨some .success, next, served⟩ ∧
      (∀ event ∈ served, event.serving = true) ∧
      Event.exchanges served = [⟨call, .ok reply⟩] := by
  -- What is shown behind the call is part of serving it.
  obtain ⟨serving, silent⟩ := console.showing_serves (document reply)
  refine ⟨_, run_single_replied store console state complaint document answered,
    List.forall_mem_cons.mpr ⟨rfl, serving⟩, ?_⟩
  rw [← List.singleton_append, Event.exchanges_append, silent]
  rfl

/-- A call that fails is followed by the report of its error. -/
theorem run_single_failed {error : StorageError}
    (answered : store.answer call state = (.error error, next)) :
    (single store console complaint call document).run state =
      ⟨some (.ofError error), next, [.called ⟨call, .error error⟩] ++
        [.reported (console.style.errorLine (complaint ++ error.message))]⟩ := by
  -- The answer decides, and behind the report there is nothing left to do.
  simp only [single, Session.run_bind, Session.run_mapEvents, Answerer.run_ask, answered]
  rfl

end Single

section List

variable (bucket : String) (keyPrefix : Option String)

/-- What comes of writing the listing that is asked for. -/
def listed : Outcome Event σ (Option (Except StorageError Nat)) :=
  (writeListing store console.style.json fuel console.sink
    (.start bucket (keyPrefix.getD "")) 0).run state

/-- The listing that is asked for is offered from its start. -/
theorem offered_listed :
    Offered store console.sink.endless (.start bucket (keyPrefix.getD "")) state
      (listed store console fuel state bucket keyPrefix) :=
  -- A listing is offered from any place, so it is from its start.
  offered_writeListing store console.style.json fuel console.sink _ 0 state

/-- The listing that is asked for is walked from its first page on. -/
theorem walks_listed : ∃ steps last,
    (Listing.walk store bucket (keyPrefix.getD "") steps .first).run state =
      ⟨last, (listed store console fuel state bucket keyPrefix).state,
        Event.exchanges (listed store console fuel state bucket keyPrefix).events⟩ ∧
    (console.sink.endless = true →
      (listed store console fuel state bucket keyPrefix).value ≠ none → last = .nothing) :=
  -- What was offered was walked to.
  (offered_listed store console fuel state bucket keyPrefix).walks

/-- The status that a listing leads to, and what is reported of it. -/
def concluded (complaint : String) : Except StorageError Nat → ExitStatus × List Event
  | .ok _ => (.success, [])
  | .error error =>
    (.ofError error, [.reported (console.style.errorLine (complaint ++ error.message))])

/-- A listing command ends as its listing does. -/
theorem run_perform_list :
    (perform store console fuel (.list bucket keyPrefix)).run state =
      let written := listed store console fuel state bucket keyPrefix
      let ends := written.value.map (concluded console (Operation.list bucket keyPrefix).complaint)
      ⟨ends.map Prod.fst, written.state, written.events ++ (ends.map Prod.snd).getD []⟩ := by
  -- The command is writing the listing, and then looking at how that ended.
  cases run : listed store console fuel state bucket keyPrefix with
  | mk value next events =>
    rw [listed, Console.sink] at run
    simp only [perform, Session.run_bind, run]
    -- Only an error is followed by anything.
    rcases value with _ | error | count
    · simp
    · rfl
    · simp [concluded]

end List

end ObjectStorage
