import ObjectStorage.Proofs.Execution.Presentation
import ObjectStorage.Proofs.Json.Lines
import ObjectStorage.ScriptedStore

/-! The JSON style: both outputs of a command are JSON objects, a line each, from which errors and
the names of objects can be read back. -/

namespace ObjectStorage

open CommandLine (Flags Operation)

/-- The object that a text names: all in front of the first slash is the bucket. -/
def ObjectRef.ofDisplay (text : String) : ObjectRef where
  bucket := String.ofList (text.toList.takeWhile (· ≠ '/'))
  key := String.ofList ((text.toList.dropWhile (· ≠ '/')).drop 1)

/-- An object can be told from its name, unless there is a slash in its bucket. -/
theorem ObjectRef.ofDisplay_display {target : ObjectRef} (plain : '/' ∉ target.bucket.toList) :
    ofDisplay target.display = target := by
  obtain ⟨bucket, key⟩ := target
  -- The first slash is the one behind the bucket.
  have others : ∀ c ∈ bucket.toList, decide (c ≠ '/') = true := fun c member =>
    decide_eq_true fun slash => plain (slash ▸ member)
  have split : (ObjectRef.mk bucket key).display.toList = bucket.toList ++ '/' :: key.toList := by
    simp [display]
  rw [ofDisplay, split, List.takeWhile_append_of_pos others, List.dropWhile_append_of_pos others]
  simp

/-- The member that names the object of an upload or a deletion, when it has succeeded. -/
def CommandLine.Operation.named? : Operation → Option (String × ObjectRef)
  | .put _ target => some ("target", target)
  | .list _ _ => none
  | .remove target => some ("deleted", target)

namespace Event

/-- The message for an event that fails a command: the text of the error that was met, and what was
to be done. -/
def complaint? (operation : Operation) : Event → Option String
  | .loaded (.error error) => some error.message
  | .connected _ (some error) => some ("Failed to create S3 client: " ++ error.message)
  | .called exchange => exchange.failure?.map fun error => operation.complaint ++ error.message
  | _ => none

/-- The messages for all that failed in a trace. -/
def complaints (operation : Operation) (trace : List Event) : List String :=
  trace.filterMap (complaint? operation)

/-- Whether an event writes nothing but JSON objects. -/
def WritesObjects : Event → Prop
  | .wrote line _ => ∃ members, line = (Json.object members).text
  | _ => True

/-- The messages of two traces come one after the other. -/
theorem complaints_append (operation : Operation) (earlier later : List Event) :
    complaints operation (earlier ++ later) =
      complaints operation earlier ++ complaints operation later :=
  -- Each event is looked at by itself.
  List.filterMap_append

/-- In serving a command, the calls are all that can fail. -/
theorem complaints_of_serving (operation : Operation) {trace : List Event}
    (serves : ∀ event ∈ trace, event.serving = true) :
    complaints operation trace = ((exchanges trace).filterMap Exchange.failure?).map
      fun error => operation.complaint ++ error.message := by
  -- Event by event, since each is a call or something that is written.
  induction trace with
  | nil => rfl
  | cons event trace ih =>
    obtain ⟨kind, others⟩ := List.forall_mem_cons.mp serves
    rw [← List.singleton_append, complaints_append, exchanges_append, ih others,
      List.filterMap_append, List.map_append]
    congr 1
    cases event with
    | called exchange =>
      -- A call is looked at for its failure on both sides.
      cases failure : exchange.failure? <;> simp [complaints, complaint?, exchanges, failure]
    | wrote line accepted => rfl
    | loaded result => cases kind
    | connected connection refusal => cases kind
    | reported line => cases kind

/-- What writes nothing but objects leaves lines of objects. -/
theorem exists_isLines {trace : List Event} (objects : ∀ event ∈ trace, event.WritesObjects) :
    ∃ objects, Json.IsLines objects (standardOutput trace) := by
  -- The lines of the first event come in front of those of the rest.
  induction trace with
  | nil => exact ⟨[], Json.isLines_texts []⟩
  | cons event trace ih =>
    obtain ⟨first, others⟩ := List.forall_mem_cons.mp objects
    obtain ⟨behind, rest⟩ := ih others
    have front : ∃ objects, Json.IsLines objects (standardOutput [event]) := by
      match event, first with
      | .wrote line true, ⟨members, text⟩ =>
        have one := Json.isLines_texts [members]
        exact ⟨[members], by simpa [standardOutput, output, text] using one⟩
      -- No other event adds to the output.
      | .wrote _ false, _ | .loaded _, _ | .connected _ _, _ | .called _, _ | .reported _, _ =>
        exact ⟨[], Json.isLines_texts []⟩
    obtain ⟨own, line⟩ := front
    refine ⟨own ++ behind, ?_⟩
    rw [← List.singleton_append, standardOutput_append]
    exact line.append rest

end Event

/-- The fetches of a walk fail once at most. -/
theorem Listing.Walked.filterMap_failure? {bucket keyPrefix : String} {start last : Continuation}
    {made : List Exchange} (walked : Walked bucket keyPrefix start made last) :
    made.filterMap Exchange.failure? = (failureOf made).toList := by
  -- A page is no failure, and behind one that failed there is nothing.
  induction walked with
  | still => rfl
  | page page asked onward ih => exact ih
  | failed error asked => rfl

/-- How a command in the JSON style tells of what it did. -/
structure TellsInJson (operation : Operation) (quiet : Bool) (status : Option ExitStatus)
    (trace : List Event) : Prop where
  output : ∃ objects, Json.IsLines objects (Event.standardOutput trace)
  /-- All that standard error holds is an object for each error, with the message alone. -/
  errors : Json.IsLines
    ((Event.complaints operation trace).map fun message => [("error", .string message)])
    (Event.standardError trace)
  /-- A success is told of by one object, and what it was about can be read from there. -/
  named : ∀ name target, operation.named? = some (name, target) → status = some .success →
    quiet = false → ∃ members text, Json.IsLines [members] (Event.standardOutput trace) ∧
      members.lookup "status" = some (.string "success") ∧
      members.lookup name = some (.string text) ∧
      ('/' ∉ target.bucket.toList → ObjectRef.ofDisplay text = target)

section Perform

variable {σ : Type} (store : Store σ) {style : Style} (styled : style.json = true) (fuel : Nat)
  (state : σ)

include styled in
/-- In the JSON style an error is reported by an object with its message. -/
theorem Style.errorLine_json (message : String) :
    style.errorLine message = (Json.object [("error", .string message)]).text := by
  -- The style decides on the form of the line, and on nothing else.
  simp [errorLine, styled]

include styled in
/-- In the JSON style reports are lines of objects with their messages. -/
theorem isLines_reports {messages : List String} {trace : List Event}
    (reports : Event.reports trace = messages.map style.errorLine) :
    Json.IsLines (messages.map fun message => [("error", .string message)])
      (Event.standardError trace) := by
  -- Each report is the text of an object, and a newline stands behind it.
  have lines := Json.isLines_texts (messages.map fun message => [("error", .string message)])
  rw [Event.standardError_eq, reports]
  simpa [Function.comp_def, Style.errorLine_json styled] using lines

/-- What a JSON document says of an object: that all went well, and under this name which object. -/
def Names (name : String) (target : ObjectRef) (members : List (String × Json)) : Prop :=
  members.lookup "status" = some (.string "success") ∧
    members.lookup name = some (.string target.display)

include styled in
/-- A command that makes one call tells of it in JSON. -/
theorem tellsInJson_single (operation : Operation) (call : StoreCall)
    (document : call.Reply → Json)
    (names : ∀ reply, ∃ members, document reply = .object members ∧
      ∀ name target, operation.named? = some (name, target) → Names name target members) :
    let outcome := (single store ⟨style, none⟩ operation.complaint call document).run state
    TellsInJson operation style.quiet outcome.value outcome.events := by
  -- The answer decides what is told: a document, nothing, or an error.
  cases answered : store.answer call state with
  | mk answer next =>
    cases answer with
    | ok reply =>
      obtain ⟨members, written, named⟩ := names reply
      rw [run_single_replied store ⟨style, none⟩ state operation.complaint document answered]
      cases heard : style.quiet with
      | true =>
        -- A quiet command shows nothing.
        simp only [Console.showing, heard, styled, Bool.not_true, Bool.and_false,
          Bool.false_eq_true, if_false]
        refine ⟨⟨[], Json.isLines_texts []⟩, Json.isLines_texts [], fun _ _ _ _ loud => ?_⟩
        cases loud
      | false =>
        -- The document is the one line, and it names what the command was about.
        simp only [Console.showing, heard, styled, written]
        have line := Json.isLines_texts [members]
        refine ⟨⟨[members], line⟩, Json.isLines_texts [], fun name target same _ _ => ?_⟩
        obtain ⟨status, display⟩ := named name target same
        exact ⟨members, _, line, status, display, ObjectRef.ofDisplay_display⟩
    | error error =>
      -- One call has failed, and one report tells of it.
      rw [run_single_failed store ⟨style, none⟩ state operation.complaint document answered]
      refine ⟨⟨[], Json.isLines_texts []⟩, isLines_reports styled rfl, fun _ _ _ succeeded => ?_⟩
      exact absurd (Option.some.inj succeeded) (ExitStatus.ofError_ne_success error)

/-- A listing in the JSON style writes nothing but objects. -/
theorem writesObjects_writeListing (sink : Sink) (listing : Listing) (count : Nat) :
    ∀ event ∈ ((writeListing store true fuel sink listing count).run state).events,
      event.WritesObjects := by
  -- Every entry costs fuel, so the induction is on the fuel, for a listing in any condition.
  induction fuel generalizing sink listing count state with
  | zero => exact List.forall_mem_nil _
  | succ fuel ih =>
    cases pulled : (listing.pull store fuel).run state with
    | mk value next made =>
      obtain ⟨answer, after⟩ := value
      have calls : ∀ event ∈ made.map Event.called, event.WritesObjects :=
        List.forall_mem_map.mpr fun _ _ => trivial
      by_cases handed : ∃ entry, answer = .entry entry
      · obtain ⟨entry, rfl⟩ := handed
        have offers : ∀ event ∈ (sink.offer (entry.line true)).2, event.WritesObjects := by
          have object : ∃ members, entry.line true = (Json.object members).text := ⟨_, rfl⟩
          -- Whatever comes of the offer, the line is that of the entry.
          rcases sink with _ | _ | _ | room <;> simp [Sink.offer, Event.WritesObjects, object]
        cases offered : sink.offer (entry.line true) with
        | mk left events =>
          rw [offered] at offers
          rw [run_writeListing_offer store true pulled offered]
          refine List.forall_mem_append.mpr ⟨List.forall_mem_append.mpr ⟨calls, offers⟩, ?_⟩
          -- If the sink lasts, the others are written in the same way.
          cases left with
          | none => exact List.forall_mem_nil _
          | some later => exact ih next later after (count + 1)
      · rw [run_writeListing_ceased store true pulled (not_exists.mp handed)]
        exact calls

/-- A listing command reports the error of the fetch that failed, and nothing else. -/
theorem reports_list (style : Style) (bucket : String) (keyPrefix : Option String) :
    let trace := ((perform store ⟨style, none⟩ fuel (.list bucket keyPrefix)).run state).events
    Event.reports trace =
      (Event.complaints (.list bucket keyPrefix) trace).map style.errorLine := by
  -- Only the fetch that failed is complained of, and only its error is reported.
  obtain ⟨-, serving, failed⟩ := offered_listed store ⟨style, none⟩ fuel state bucket keyPrefix
  obtain ⟨steps, last, walks, -⟩ := walks_listed store ⟨style, none⟩ fuel state bucket keyPrefix
  have walked := Listing.walked_walk store bucket (keyPrefix.getD "") steps .first state
  rw [run_perform_list]
  cases written : listed store ⟨style, none⟩ fuel state bucket keyPrefix with
  | mk value next events =>
    simp only [written] at serving failed walks
    rw [walks] at walked
    have complaints := Event.complaints_of_serving (.list bucket keyPrefix) serving
    rw [walked.filterMap_failure?] at complaints
    dsimp only
    rw [Event.reports_append, Event.reports_eq_nil serving, Event.complaints_append, complaints,
      List.nil_append]
    cases failure : failureOf (Event.exchanges events) with
    | some error =>
      -- The error of the last fetch is the one that is reported.
      obtain rfl := (failed error).mp failure
      rfl
    -- Without a failure nothing is reported, since the result is no error.
    | none =>
      have fine : ∀ error, value ≠ some (.error error) := fun error met =>
        Option.some_ne_none error (((failed error).mpr met).symm.trans failure)
      rcases value with _ | error | count
      · rfl
      · exact absurd rfl (fine error)
      · rfl

include styled in
/-- A listing command tells of its entries, or of an error, in JSON. -/
theorem tellsInJson_list (bucket : String) (keyPrefix : Option String) :
    let outcome := (perform store ⟨style, none⟩ fuel (.list bucket keyPrefix)).run state
    TellsInJson (.list bucket keyPrefix) style.quiet outcome.value outcome.events := by
  -- What a listing writes is settled before the report that may follow it.
  have objects := writesObjects_writeListing store fuel state (Console.sink ⟨style, none⟩)
    (.start bucket (keyPrefix.getD "")) 0
  rw [← styled] at objects
  -- No line of a listing names what was done, and what follows it is no output.
  refine ⟨?_, isLines_reports styled (reports_list store fuel state style bucket keyPrefix),
    fun _ _ named => absurd named (Option.some_ne_none _).symm⟩
  rw [run_perform_list]
  dsimp only
  rw [Event.standardOutput_append, (told_of_concluded _ _ _).2, String.append_empty]
  exact Event.exists_isLines objects

include styled in
/-- Every command in the JSON style tells of what it did in JSON. -/
theorem tellsInJson_perform (operation : Operation) :
    let outcome := (perform store ⟨style, none⟩ fuel operation).run state
    TellsInJson operation style.quiet outcome.value outcome.events := by
  -- Two of the commands show a document, and the third writes a listing.
  cases operation with
  | put source target =>
    rw [perform_put]
    refine tellsInJson_single store styled state (.put source target) _ _ fun entry => ?_
    refine ⟨_, rfl, fun name other same => ?_⟩
    -- The status and the target stand in front of all that the service may have left out.
    obtain ⟨rfl, rfl⟩ := Prod.mk.inj (Option.some.inj same)
    exact ⟨rfl, rfl⟩
  | list bucket keyPrefix => exact tellsInJson_list store styled fuel state bucket keyPrefix
  | remove target =>
    rw [perform_remove]
    refine tellsInJson_single store styled state (.remove target) _ _ fun _ => ?_
    refine ⟨_, rfl, fun name other same => ?_⟩
    obtain ⟨rfl, rfl⟩ := Prod.mk.inj (Option.some.inj same)
    exact ⟨rfl, rfl⟩

end Perform

section Execute

variable {σ : Type}

/-- What is told in JSON behind a set-up that went well tells of all. -/
theorem TellsInJson.after_setup {operation : Operation} {quiet : Bool}
    {status : Option ExitStatus} {trace : List Event}
    (tells : TellsInJson operation quiet status trace) (connection : Connection) :
    TellsInJson operation quiet status
      ([.loaded (.ok connection), .connected connection none] ++ trace) := by
  -- The set-up adds to no output and meets no error.
  obtain ⟨output, errors, named⟩ := tells
  have silent : Event.standardOutput [.loaded (.ok connection), .connected connection none] = "" :=
    rfl
  refine ⟨?_, ?_, ?_⟩
  · rwa [Event.standardOutput_append, silent, String.empty_append]
  · rw [Event.complaints_append, Event.standardError_append]
    exact (Json.isLines_texts []).append errors
  · rwa [Event.standardOutput_append, silent, String.empty_append]

/-- A set-up that fails is told of in JSON by its error alone. -/
theorem tellsInJson_failed {operation : Operation} {style : Style} (styled : style.json = true)
    {status : ExitStatus} (failed : status ≠ .success) (trace : List Event) (message : String)
    (silent : Event.standardOutput trace = "") (quiet : Event.reports trace = [])
    (complaints : Event.complaints operation trace = [message]) :
    TellsInJson operation style.quiet (some status)
      (trace ++ [.reported (style.errorLine message)]) := by
  -- The trace in front of the report has told nothing yet.
  have none : Event.complaints operation [.reported (style.errorLine message)] = [] := rfl
  refine ⟨⟨[], ?_⟩, isLines_reports styled ?_, fun _ _ _ succeeded => ?_⟩
  · rw [Event.standardOutput_append, silent]
    exact Json.isLines_texts []
  · rw [Event.reports_append, quiet, Event.complaints_append, complaints, none]
    rfl
  · exact absurd (Option.some.inj succeeded) failed

/-- A command with its set-up tells of what it did in JSON, in the JSON style. -/
theorem tellsInJson_execute (outside : Surroundings σ) (endless : outside.room = none) (fuel : Nat)
    (state : σ) {flags : Flags} (json : flags.json = true) (operation : Operation) :
    let outcome := (execute outside fuel ⟨flags, .operation operation⟩).run state
    TellsInJson operation flags.quiet outcome.value outcome.events := by
  -- A stage that fails is told of by its error, and the last stage is the command.
  have styled : (outside.style flags).json = true := json
  have failed := fun error : StorageError => @tellsInJson_failed operation _ styled _
    (ExitStatus.ofError_ne_success error)
  cases loaded : outside.settings with
  -- Without settings neither a connection nor a command follows.
  | error error =>
    simp only [execute, loaded]
    exact failed error [.loaded (.error error)] error.message rfl rfl rfl
  | ok connection =>
    cases connected : outside.connect connection with
    | error error =>
      simp only [execute, loaded, connected]
      exact failed error [.loaded (.ok connection), .connected connection (some error)]
        ("Failed to create S3 client: " ++ error.message) rfl rfl rfl
    -- The set-up leaves no output, so the lines are those of the command.
    | ok store =>
      simp only [execute, loaded, connected, endless]
      exact (tellsInJson_perform store styled fuel state operation).after_setup connection

/-- A run of the program that performs an operation in the JSON style, with an output that takes all
lines, tells of what it did in JSON. -/
theorem json_mode_writes_json_lines (outside : Surroundings σ) (fuel : Nat) (state : σ)
    {words : List Word} {flags : Flags} {operation : Operation}
    (parsed : CommandLine.parse words = .ok ⟨flags, .operation operation⟩)
    (json : flags.json = true) (endless : outside.room = none) :
    let outcome := (runProgram outside fuel words).run state
    ∃ status, outcome.value = .ok status ∧
      TellsInJson operation flags.quiet status outcome.events := by
  -- The flags come from the command line, so the run is the command with its set-up.
  have tells := tellsInJson_execute outside endless fuel state json operation
  simp only [runProgram, parsed, Session.run_bind, Session.run_pure, List.append_nil]
  exact ⟨_, rfl, tells⟩

/-- A key with a line end, a quote and a color in it does not break the lines of its deletion. -/
theorem json_mode_writes_json_lines_hostile :
    let outside : Surroundings ScriptedStore :=
      { settings := .ok (Connection.ofCluster "us-east-1.example.com" "access" "secret")
        connect := fun _ => .ok ScriptedStore.store }
    let words : List Word := [.text "--json", .text "rm", .text "b", .text "a\n\"\x1b[31m"]
    let operation : Operation := .remove ⟨"b", "a\n\"\x1b[31m"⟩
    let outcome := (runProgram outside 0 words).run ⟨[], [], []⟩
    CommandLine.parse words = .ok ⟨⟨true, false, false, false⟩, .operation operation⟩ ∧
      outside.room = none ∧ ∃ status, outcome.value = .ok status ∧
        TellsInJson operation false status outcome.events := by
  intro outside words operation outcome
  -- Reading the line is a calculation, and the law does the rest.
  have parsed : CommandLine.parse words =
      .ok ⟨⟨true, false, false, false⟩, .operation operation⟩ := by rfl
  exact ⟨parsed, rfl, json_mode_writes_json_lines outside 0 ⟨[], [], []⟩ parsed rfl rfl⟩

end Execute

end ObjectStorage
