import ObjectStorage.S3.Client

/-! A client's work runs step by step: each step leaves its event, and the first trouble ends it. -/

namespace ObjectStorage.S3.Client

variable {σ α β : Type}

/-- Work that gives a value goes on with it. -/
theorem run_bind_ok {work : Work σ α} {state next : σ} {value : α} {events : List Event}
    (done : work.run.run state = ⟨.ok value, next, events⟩) (rest : α → Work σ β) :
    (work >>= rest).run.run state = ((rest value).run.run next).after events := by
  -- The events of the first step stand before all that the rest leaves.
  rw [ExceptT.run_bind, Session.run_bind, done]
  rfl

/-- Work that meets trouble does not go on. -/
theorem run_bind_error {work : Work σ α} {state next : σ} {trouble : Trouble}
    {events : List Event} (stopped : work.run.run state = ⟨.error trouble, next, events⟩)
    (rest : α → Work σ β) :
    (work >>= rest).run.run state = ⟨.error trouble, next, events⟩ := by
  -- Trouble is handed on by work that is silent, so no event is added.
  rw [ExceptT.run_bind, Session.run_bind, stopped]
  simp

/-- Work that gave a value in the end met no trouble on the way. -/
theorem exists_of_run_bind_ok {work : Work σ α} {rest : α → Work σ β} {state : σ} {value : β}
    (done : ((work >>= rest).run.run state).value = .ok value) :
    ∃ first next events, work.run.run state = ⟨.ok first, next, events⟩ ∧
      (work >>= rest).run.run state = ((rest first).run.run next).after events ∧
      ((rest first).run.run next).value = .ok value := by
  cases begun : work.run.run state with
  | mk result next events =>
    cases result with
    | error trouble =>
      -- Trouble in the first step would be the result of all.
      rw [run_bind_error begun] at done
      exact nomatch done
    | ok first =>
      rw [run_bind_ok begun] at done
      exact ⟨first, next, events, rfl, run_bind_ok begun rest, done⟩

/-- A calculation that has a result does nothing else. -/
theorem run_calculated {result : Except Number.ArithmeticFault α} {value : α}
    (valid : result = .ok value) (state : σ) :
    (calculated result : Work σ α).run.run state = ⟨.ok value, state, []⟩ := by
  -- Without a fault there is only the value.
  subst valid
  rfl

/-- Work whose trouble is looked at instead of ending everything. -/
theorem run_attempt {work : Work σ α} {state next : σ} {result : Except Trouble α}
    {events : List Event} (done : work.run.run state = ⟨result, next, events⟩) :
    (ExceptT.lift work.run : Work σ (Except Trouble α)).run.run state =
      ⟨.ok result, next, events⟩ := by
  -- The result is wrapped once more, which leaves no event.
  rw [ExceptT.run_lift, map_eq_pure_bind, Session.run_bind, done]
  simp

variable (client : Client σ) (state : σ)

/-- A request that is answered. -/
theorem run_send_ok {request : Request} {next : σ} {reply : request.Reply}
    (answered : client.service.answer request state = (.ok reply, next)) (target : String) :
    (client.send target request).run.run state =
      ⟨.ok reply, next, [.sent request (.ok reply)]⟩ := by
  -- The request is asked of the service, and its answer is the only event.
  simp only [send, ExceptT.run_mk, Session.run_bind, Answerer.run_ask, answered]
  rfl

/-- A request that fails. -/
theorem run_send_error {request : Request} {next : σ} {failure : Failure}
    (refused : client.service.answer request state = (.error failure, next)) (target : String) :
    (client.send target request).run.run state =
      ⟨.error (failure.trouble target), next, [.sent request (.error failure)]⟩ := by
  -- The failure is told of as an event, and it ends the work.
  simp only [send, ExceptT.run_mk, Session.run_bind, Answerer.run_ask, refused]
  rfl

/-- A local file that can be used. -/
theorem run_read_ok {call : FileCall} {next : σ} {reply : call.Reply}
    (answered : client.machine.files.answer call state = (.ok reply, next)) :
    (client.read call).run.run state = ⟨.ok reply, next, [.read call (.ok reply)]⟩ := by
  -- The question is asked of the machine, and its answer is the only event.
  simp only [read, ExceptT.run_mk, Session.run_bind, Answerer.run_ask, answered]
  rfl

/-- A local file that cannot be used. -/
theorem run_read_error {call : FileCall} {next : σ} {fault : FileFault}
    (refused : client.machine.files.answer call state = (.error fault, next)) :
    (client.read call).run.run state =
      ⟨.error (.storage (.file fault)), next, [.read call (.error fault)]⟩ := by
  -- The fault is told of as an event, and it ends the work.
  simp only [read, ExceptT.run_mk, Session.run_bind, Answerer.run_ask, refused]
  rfl

/-- A request that was answered left nothing but its event. -/
theorem events_of_run_send_ok {request : Request} {target : String} {next : σ}
    {reply : request.Reply} {events : List Event}
    (done : (client.send target request).run.run state = ⟨.ok reply, next, events⟩) :
    events = [.sent request (.ok reply)] := by
  -- The run is known for each answer of the service.
  cases answered : client.service.answer request state with
  | mk answer last =>
    cases answer with
    | error failure =>
      -- A failure would have been the result.
      rw [run_send_error client state answered] at done
      exact nomatch (Outcome.mk.inj done).1
    | ok found =>
      -- The reply that was found is the one that was given.
      rw [run_send_ok client state answered] at done
      obtain ⟨same, -, rfl⟩ := Outcome.mk.inj done
      cases same
      rfl

/-- A local file that could be used was asked about once. -/
theorem events_of_run_read_ok {call : FileCall} {next : σ} {reply : call.Reply}
    {events : List Event} (done : (client.read call).run.run state = ⟨.ok reply, next, events⟩) :
    events = [.read call (.ok reply)] ∧
      client.machine.files.answer call state = (.ok reply, next) := by
  -- The run is known for each answer of the machine.
  cases answered : client.machine.files.answer call state with
  | mk answer last =>
    cases answer with
    | error fault =>
      -- A fault would have been the result.
      rw [run_read_error client state answered] at done
      exact nomatch (Outcome.mk.inj done).1
    | ok found =>
      -- The reply that was found is the one that was given.
      rw [run_read_ok client state answered] at done
      obtain ⟨same, rfl, rfl⟩ := Outcome.mk.inj done
      cases same
      exact ⟨rfl, rfl⟩

/-- Every event of a trace tells what the service or the machine answered. -/
def Answered (trace : List Event) : Prop :=
  ∀ event ∈ trace, match event with
    | .sent request answer => ∃ state, (client.service.answer request state).1 = answer
    | .read call answer => ∃ state, (client.machine.files.answer call state).1 = answer
    | .stopped _ => False

/-- Work leaves only events that tell of answers. -/
def Honest (work : Work σ α) : Prop := ∀ state, client.Answered (work.run.run state).events

variable {client}

/-- Honest steps make honest work. -/
theorem Honest.bind {work : Work σ α} {rest : α → Work σ β} (first : client.Honest work)
    (second : ∀ value, client.Honest (rest value)) : client.Honest (work >>= rest) := by
  -- The first step may end the work, and then its events are all.
  intro state
  cases done : work.run.run state with
  | mk result next events =>
    have before : client.Answered events := by simpa [done] using first state
    cases result with
    | error trouble => rwa [run_bind_error done]
    | ok value =>
      rw [run_bind_ok done]
      intro event member
      -- An event is of the first step, or of the rest from where the first step ended.
      rcases List.mem_append.mp member with earlier | later
      · exact before event earlier
      · exact second value next event later

/-- Giving a value, meeting trouble and calculating leave no events. -/
theorem Honest.of_silent {work : Work σ α} (silent : ∀ state, (work.run.run state).events = []) :
    client.Honest work := by
  -- There is no event that could tell of anything.
  intro state event member
  simp [silent] at member

/-- Sending a request is honest. -/
theorem honest_send (target : String) (request : Request) :
    client.Honest (client.send target request) := by
  -- The one event is the request with its answer.
  intro state event member
  obtain rfl := List.mem_singleton.mp member
  exact ⟨state, rfl⟩

/-- Giving up an upload is honest. -/
theorem honest_abandon (target : ObjectRef) (uploadId : String) :
    client.Honest (client.abandon target uploadId) := by
  -- The one event is the request with its answer, which nobody looks at.
  intro state event member
  obtain rfl := List.mem_singleton.mp member
  exact ⟨state, rfl⟩

/-- Reading a local file is honest. -/
theorem honest_read (call : FileCall) : client.Honest (client.read call) := by
  -- The one event is the question with its answer.
  intro state event member
  obtain rfl := List.mem_singleton.mp member
  exact ⟨state, rfl⟩

/-- Doing honest work for one value after another is honest. -/
theorem Honest.mapM {work : α → Work σ β} (each : ∀ value, client.Honest (work value))
    (values : List α) : client.Honest (values.mapM work) := by
  induction values with
  -- Nothing is left for no values.
  | nil => exact .of_silent fun _ => rfl
  -- The first value is worked on before the others, and all results are put together in silence.
  | cons value rest ih =>
    rw [List.mapM_cons]
    exact (each value).bind fun _ => ih.bind fun _ => .of_silent fun _ => rfl

/-- Looking at the trouble of honest work is honest. -/
theorem Honest.attempt {work : Work σ α} (honest : client.Honest work) :
    client.Honest (ExceptT.lift work.run) := by
  intro state
  cases done : work.run.run state with
  | mk result next events =>
    -- The trouble becomes a value, and the events stay.
    rw [run_attempt done]
    have kept := honest state
    rwa [done] at kept

/-- Sending a part is honest. -/
theorem honest_sendPart (source : Word) (target : ObjectRef) (uploadId : String)
    (partSize size number : Nat) :
    client.Honest (client.sendPart source target uploadId partSize size number) := by
  -- Its range is calculated in silence, then its bytes are read and sent.
  refine .bind (.of_silent fun _ => rfl) fun range => ?_
  refine (honest_read _).bind fun body => ?_
  exact (honest_send _ _).bind fun etag => .of_silent fun _ => rfl

/-- Sending all parts and completing the upload is honest. -/
theorem honest_sendAndComplete (source : Word) (target : ObjectRef) (uploadId : String)
    (size : Nat) : client.Honest (client.sendAndComplete source target uploadId size) := by
  -- The layout is calculated in silence, and each part is honest by itself.
  refine .bind (.of_silent fun _ => rfl) fun partSize => ?_
  refine .bind (.of_silent fun _ => rfl) fun count => ?_
  refine (Honest.mapM (fun number => honest_sendPart _ _ _ _ _ number) _).bind fun parts => ?_
  exact honest_send _ _

/-- Ending an upload in parts is honest. -/
theorem honest_settle (target : ObjectRef) (uploadId : String) (size : Nat)
    (result : Except Trouble (Option String)) :
    client.Honest (client.settle target uploadId size result) := by
  -- A completed upload leaves no event more.
  cases result with
  | ok etag => exact .of_silent fun _ => rfl
  | error trouble =>
    -- Only trouble from the service or a local file makes the client give the upload up.
    cases trouble with
    | storage error => exact (honest_abandon _ _).bind fun _ => .of_silent fun _ => rfl
    | fault fault => exact .of_silent fun _ => rfl

/-- All that an upload does is honest. -/
theorem honest_putFile (source : Word) (target : ObjectRef) :
    client.Honest (client.putFile source target) := by
  -- The file is looked at first, and what it is decides what is done.
  refine (honest_read _).bind fun status => ?_
  split
  · split
    · -- A large file is sent in parts, unless the upload got no identifier.
      refine (honest_send _ _).bind fun identifier => ?_
      cases identifier with
      | none => exact .of_silent fun _ => rfl
      | some uploadId =>
        refine (honest_sendAndComplete _ _ _ _).attempt.bind fun result => ?_
        exact honest_settle _ _ _ result
    · -- A small file is read as a whole and sent at once.
      refine (honest_read _).bind fun body => ?_
      exact (honest_send _ _).bind fun etag => .of_silent fun _ => rfl
  · -- What is not a regular file is not sent.
    exact .of_silent fun _ => rfl

end ObjectStorage.S3.Client
