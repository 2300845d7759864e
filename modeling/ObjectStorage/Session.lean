/-! Computations that deal with an outside world: they work on its state and leave a trace of what
happened. -/

namespace ObjectStorage

/-- What came of a computation: its value, the state it left and the events on the way. -/
structure Outcome (ε σ α : Type) where
  value : α
  state : σ
  events : List ε

/-- The outcome of a computation that went on after other events. -/
def Outcome.after {ε σ α : Type} (events : List ε) (outcome : Outcome ε σ α) : Outcome ε σ α :=
  { outcome with events := events ++ outcome.events }

/-- A computation that works on a state `σ` and leaves events `ε`. -/
def Session (ε σ α : Type) : Type := σ → Outcome ε σ α

namespace Session

variable {ε ε' σ τ α β : Type}

/-- Runs a computation from a state. -/
def run (session : Session ε σ α) (state : σ) : Outcome ε σ α := session state

instance : Monad (Session ε σ) where
  pure value := fun state => ⟨value, state, []⟩
  bind session next := fun state =>
    -- The second works on what the first left, and its events stand behind.
    let first := session state
    let second := next first.value first.state
    ⟨second.value, second.state, first.events ++ second.events⟩

@[simp] theorem run_pure (value : α) (state : σ) :
    (pure value : Session ε σ α).run state = ⟨value, state, []⟩ := rfl

@[simp] theorem run_bind (session : Session ε σ α) (next : α → Session ε σ β) (state : σ) :
    (session >>= next).run state =
      ⟨((next (session.run state).value).run (session.run state).state).value,
        ((next (session.run state).value).run (session.run state).state).state,
        (session.run state).events
          ++ ((next (session.run state).value).run (session.run state).state).events⟩ := rfl

instance : LawfulMonad (Session ε σ) := LawfulMonad.mk' _
  (fun session => by funext state; simp [Functor.map, Function.comp])
  (fun value next => by funext state; simp [bind, pure])
  (fun session next last => by funext state; simp [bind, List.append_assoc])

@[simp] theorem run_map (change : α → β) (session : Session ε σ α) (state : σ) :
    (change <$> session).run state =
      ⟨change (session.run state).value, (session.run state).state,
        (session.run state).events⟩ := by
  simp [map_eq_pure_bind, -bind_pure_comp]

/-- Leaves an event behind. -/
def emit (event : ε) : Session ε σ Unit := fun state => ⟨(), state, [event]⟩

@[simp] theorem run_emit (event : ε) (state : σ) :
    (emit event : Session ε σ Unit).run state = ⟨(), state, [event]⟩ := rfl

/-- Uses the state once. -/
def step (use : σ → α × σ) : Session ε σ α := fun state =>
  let used := use state
  ⟨used.1, used.2, []⟩

@[simp] theorem run_step (use : σ → α × σ) (state : σ) :
    (step use : Session ε σ α).run state = ⟨(use state).1, (use state).2, []⟩ := rfl

/-- Renames the events that a computation leaves. -/
def mapEvents (rename : ε → ε') (session : Session ε σ α) : Session ε' σ α := fun state =>
  let outcome := session state
  ⟨outcome.value, outcome.state, outcome.events.map rename⟩

@[simp] theorem run_mapEvents (rename : ε → ε') (session : Session ε σ α) (state : σ) :
    (session.mapEvents rename).run state =
      ⟨(session.run state).value, (session.run state).state,
        (session.run state).events.map rename⟩ := rfl

end Session

/-- An outside party that answers calls. What it answers may depend on all that happened before, as
its state tells. -/
structure Answerer (Call : Type) (Reply : Call → Type) (Fault σ : Type) where
  answer : (call : Call) → σ → Except Fault (Reply call) × σ

/-- Makes one call and leaves the event that tells of it. -/
def Answerer.ask {Call : Type} {Reply : Call → Type} {Fault σ ε : Type}
    (party : Answerer Call Reply Fault σ)
    (event : (call : Call) → Except Fault (Reply call) → ε) (call : Call) :
    Session ε σ (Except Fault (Reply call)) := do
  let answer ← Session.step (party.answer call)
  Session.emit (event call answer)
  return answer

@[simp] theorem Answerer.run_ask {Call : Type} {Reply : Call → Type} {Fault σ ε : Type}
    (party : Answerer Call Reply Fault σ)
    (event : (call : Call) → Except Fault (Reply call) → ε) (call : Call) (state : σ) :
    (party.ask event call).run state =
      ⟨(party.answer call state).1, (party.answer call state).2,
        [event call (party.answer call state).1]⟩ := rfl

/-- A computation that makes a call goes on with its answer. -/
theorem Answerer.run_ask_bind {Call : Type} {Reply : Call → Type} {Fault σ ε α : Type}
    (party : Answerer Call Reply Fault σ)
    (event : (call : Call) → Except Fault (Reply call) → ε) {call : Call} {state after : σ}
    {answer : Except Fault (Reply call)} (answered : party.answer call state = (answer, after))
    (rest : Except Fault (Reply call) → Session ε σ α) :
    (party.ask event call >>= rest).run state =
      ((rest answer).run after).after [event call answer] := by
  rw [Session.run_bind, run_ask, answered]
  rfl

end ObjectStorage
