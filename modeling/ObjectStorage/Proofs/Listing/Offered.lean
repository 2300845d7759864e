import ObjectStorage.Proofs.Listing.Written

/-! A listing that is written anywhere, also to an output that fails or nowhere at all: it fetches
as a walk does, reports nothing by itself, keeps the error of a fetch, and comes to its end just if
fetching does. -/

namespace ObjectStorage

namespace Event

/-- Whether an event is a call or a line for standard output, and thus part of serving a command. -/
def serving : Event → Bool
  | .called _ => true
  | .wrote _ _ => true
  | _ => false

/-- The lines that a trace reports. -/
def reports (trace : List Event) : List String :=
  trace.filterMap fun
    | .reported line => some line
    | _ => none

@[simp] theorem reports_append (earlier later : List Event) :
    reports (earlier ++ later) = reports earlier ++ reports later := List.filterMap_append

/-- Standard error holds the reports, a line each. -/
theorem standardError_eq (trace : List Event) :
    standardError trace = String.join ((reports trace).map (· ++ "\n")) := by
  -- The induction is on the trace, with one event in front at a time.
  induction trace with
  | nil => rfl
  | cons event trace ih =>
    have split : standardError (event :: trace) = event.errors ++ standardError trace :=
      String.join_cons
    rw [split, ih, ← List.singleton_append, reports_append, List.map_append, String.join_append]
    -- Of all kinds of events only a report adds a line.
    cases event <;> simp [reports, errors]

/-- Serving reports nothing. -/
theorem reports_eq_nil {trace : List Event} (serves : ∀ event ∈ trace, event.serving = true) :
    reports trace = [] := by
  -- A report would be an event of another kind.
  refine List.filterMap_eq_nil_iff.mpr fun event member => ?_
  have kind := serves event member
  cases event with
  | reported line => exact nomatch kind
  | _ => rfl

/-- Calls are part of serving. -/
theorem serving_called (made : List Exchange) :
    ∀ event ∈ made.map Event.called, event.serving = true := by
  intro event member
  -- Every event is the one that tells of a call.
  obtain ⟨exchange, -, rfl⟩ := List.mem_map.mp member
  rfl

end Event

namespace Sink

/-- Whether a sink takes any number of lines. -/
def endless : Sink → Bool
  | .output (some _) => false
  | _ => true

/-- A sink without limits stays as it is. -/
theorem offer_endless (sink : Sink) (line : String) (lasts : sink.endless = true) :
    (sink.offer line).1 = some sink := by
  -- Of the three kinds of sinks only an output with a limit can fail.
  rcases sink with _ | _ | room
  · rfl
  · rfl
  · exact nomatch lasts

/-- Offering a line is part of serving. -/
theorem offer_serving (sink : Sink) (line : String) :
    ∀ event ∈ (sink.offer line).2, event.serving = true := by
  -- The only event that an offer may leave is a line.
  rcases sink with _ | _ | _ | room <;> simp [offer, Event.serving]

/-- Offering a line is no call. -/
theorem exchanges_offer (sink : Sink) (line : String) :
    Event.exchanges (sink.offer line).2 = [] := by
  -- In each case there is a line or nothing.
  rcases sink with _ | _ | _ | room <;> rfl

end Sink

section Offer

variable {σ : Type} (store : Store σ) (json : Bool)

/-- What comes of a listing that is written anywhere. Where the sink lasts, there is no result
before fetching has ended. -/
structure Offered (lasts : Bool) (listing : Listing) (state : σ)
    (outcome : Outcome Event σ (Option (Except StorageError Nat))) : Prop where
  walks : ∃ steps last,
    (Listing.walk store listing.bucket listing.keyPrefix steps listing.next).run state =
      ⟨last, outcome.state, Event.exchanges outcome.events⟩ ∧
    (lasts = true → outcome.value ≠ none → last = .nothing)
  serving : ∀ event ∈ outcome.events, event.serving = true
  /-- An error is the result just if a fetch met it. -/
  failed : ∀ error, failureOf (Event.exchanges outcome.events) = some error ↔
    outcome.value = some (.error error)

/-- A listing of which nothing is asked has no error. -/
theorem Offered.idle {lasts : Bool} {listing : Listing} {state : σ}
    {value : Option (Except StorageError Nat)} (fine : ∀ error, value ≠ some (.error error))
    (ends : lasts = true → value ≠ none → listing.next = .nothing) :
    Offered store lasts listing state ⟨value, state, []⟩ where
  walks := ⟨0, listing.next, rfl, ends⟩
  serving := List.forall_mem_nil _
  failed error := iff_of_false (by simp [Event.exchanges]) (fine error)

/-- A listing that goes on behind an offer keeps what is known of its rest. -/
theorem Offered.after_offer {lasts later : Bool} {listing after : Listing} {state next : σ}
    {made : List Exchange} {events : List Event}
    {rest : Outcome Event σ (Option (Except StorageError Nat))} {steps : Nat}
    (about : after.bucket = listing.bucket ∧ after.keyPrefix = listing.keyPrefix)
    (walks : (Listing.walk store listing.bucket listing.keyPrefix steps listing.next).run state =
      ⟨after.next, next, made⟩)
    (fine : failureOf made = none) (served : ∀ event ∈ events, event.serving = true)
    (silent : Event.exchanges events = [])
    (goesOn : lasts = true → later = true) (offered : Offered store later after next rest) :
    Offered store lasts listing state (rest.after (made.map .called ++ events)) := by
  -- The walk of the rest goes on where the walk of the pull stopped.
  obtain ⟨⟨more, last, further, ends⟩, serving, failed⟩ := offered
  rw [about.1, about.2] at further
  -- The calls are those of the pull and those of the rest, and no others.
  have calls : Event.exchanges (made.map .called ++ events ++ rest.events) =
      made ++ Event.exchanges rest.events := by
    rw [Event.exchanges_append, Event.exchanges_append, Event.exchanges_called, silent,
      List.append_nil]
  refine ⟨⟨steps + more, last, ?_, fun long => ends (goesOn long)⟩, ?_, fun error => ?_⟩
  · rw [Listing.walk_add, Session.run_bind, walks, further]
    simp only [Outcome.after, calls]
  · -- Calls, the offer and the rest are all part of serving.
    refine List.forall_mem_append.mpr ⟨List.forall_mem_append.mpr ⟨?_, served⟩, serving⟩
    exact Event.serving_called made
  · -- The pull met no error, so an error is one of the rest.
    simp only [Outcome.after, calls, failureOf_append, fine, Option.none_or]
    exact failed error

/-- A listing that ends with a pull makes the calls of the pull and no others, and what the pull
tells of them is the result. -/
theorem Offered.of_ceased {lasts : Bool} {fetches steps : Nat} {listing after : Listing}
    {state next : σ} {made : List Exchange} {answer : Pulled}
    (pulls : Listing.Pulls fetches listing made answer after)
    (walks : (Listing.walk store listing.bucket listing.keyPrefix steps listing.next).run state =
      ⟨after.next, next, made⟩)
    (none : ∀ entry, answer ≠ .entry entry) (count : Nat) :
    Offered store lasts listing state ⟨answer.result? count, next, made.map .called⟩ := by
  -- Each answer without an entry tells if an error was met and if a page may follow.
  have told : (∀ error, failureOf made = some error ↔ answer.result? count = some (.error error)) ∧
      (answer.result? count ≠ .none → after.next = .nothing) := by
    cases answer with
    | entry entry => exact absurd rfl (none entry)
    | failed error =>
      obtain ⟨-, failure, last⟩ := pulls.of_failed
      simp [failure, last, Pulled.result?]
    | ended =>
      obtain ⟨-, fine, last⟩ := pulls.of_ended
      simp [fine, last, Pulled.result?]
    | exhausted =>
      -- Pages were passed over, but none of them failed.
      have fine := (nothing_of_passed pulls.passed.2).2
      simp [fine, Pulled.result?]
  refine ⟨⟨steps, after.next, ?_, fun _ => told.2⟩, Event.serving_called made, ?_⟩
  · rw [walks, Event.exchanges_called]
  · rw [Event.exchanges_called]
    exact told.1

/-- Every listing that is written is offered like this. -/
theorem offered_writeListing (fuel : Nat) (sink : Sink) (listing : Listing) (count : Nat)
    (state : σ) :
    Offered store sink.endless listing state
      ((writeListing store json fuel sink listing count).run state) := by
  -- Every entry costs fuel, so the induction is on the fuel, for a listing in any condition.
  induction fuel generalizing sink listing count state with
  | zero => exact Offered.idle store (by simp) (by simp)
  | succ fuel ih =>
    obtain ⟨pulls, steps, walks⟩ := Listing.pulling_pull store fuel listing state
    cases pulled : (listing.pull store fuel).run state with
    | mk value next made =>
      obtain ⟨answer, after⟩ := value
      rw [pulled] at pulls walks
      by_cases handed : ∃ entry, answer = .entry entry
      · obtain ⟨entry, rfl⟩ := handed
        obtain ⟨-, fine⟩ := pulls.of_entry
        have served := sink.offer_serving (entry.line json)
        have silent := sink.exchanges_offer (entry.line json)
        have kept := sink.offer_endless (entry.line json)
        cases offered : sink.offer (entry.line json) with
        | mk left events =>
          rw [offered] at served silent kept
          rw [run_writeListing_offer store json pulled offered]
          cases left with
          | none =>
            -- A sink that failed leaves nothing to do.
            have stopped : Offered store false after next ⟨some (.ok count), next, []⟩ :=
              Offered.idle store (by simp) (by simp)
            exact stopped.after_offer store pulls.about walks fine served silent
              fun lasts => absurd (kept lasts) (by simp)
          | some later =>
            -- A sink that lasts is the same behind the offer.
            refine (ih later after (count + 1) next).after_offer store pulls.about walks fine served
              silent fun lasts => ?_
            rwa [Option.some.inj (kept lasts)]
      · -- Without an entry there is nothing to offer.
        have none := not_exists.mp handed
        rw [run_writeListing_ceased store json pulled none]
        exact Offered.of_ceased store pulls walks none count

/-- A listing that is written nowhere leaves nothing on standard output. -/
theorem standardOutput_nowhere (fuel : Nat) (listing : Listing) (count : Nat) (state : σ) :
    Event.standardOutput ((writeListing store json fuel .nowhere listing count).run state).events =
      "" := by
  -- Each entry takes one unit of fuel and leaves no line.
  induction fuel generalizing listing count state with
  | zero => rfl
  | succ fuel ih =>
    cases pulled : (listing.pull store fuel).run state with
    | mk value next made =>
      obtain ⟨answer, after⟩ := value
      by_cases handed : ∃ entry, answer = .entry entry
      · -- Nothing is printed for an entry that goes nowhere.
        obtain ⟨entry, rfl⟩ := handed
        rw [run_writeListing_offer store json pulled rfl]
        simp only [List.append_nil, Outcome.after, Option.elim_some]
        rw [Event.standardOutput_append, Event.standardOutput_called, ih, String.append_empty]
      · rw [run_writeListing_ceased store json pulled (not_exists.mp handed)]
        exact Event.standardOutput_called made

/-- A listing that can be walked to its end is written to its end, with fuel for the entries and the
pages of the walk. -/
theorem finished_writeListing (fuel : Nat) (sink : Sink) {listing : Listing} {state last : σ}
    {steps : Nat} {all : List Exchange}
    (ended : (Listing.walk store listing.bucket listing.keyPrefix steps listing.next).run state =
      ⟨.nothing, last, all⟩)
    (enough : (listing.pending ++ itemsOf all).length + steps + 1 < fuel) (count : Nat) :
    ((writeListing store json fuel sink listing count).run state).value ≠ none := by
  -- Every entry that is written is one entry less, so the induction is on the fuel.
  induction fuel generalizing sink listing state all count with
  | zero => exact nomatch enough
  | succ fuel ih =>
    obtain ⟨pulls, begun, walks⟩ := Listing.pulling_pull store fuel listing state
    cases pulled : (listing.pull store fuel).run state with
    | mk value next made =>
      obtain ⟨answer, after⟩ := value
      rw [pulled] at pulls walks
      dsimp only at pulls walks
      -- What is fetched for the pull is the beginning of the walk.
      obtain ⟨rest, rfl, further⟩ :=
        Listing.walk_rest store listing.bucket listing.keyPrefix ended walks
      cases answer with
      | entry entry =>
        obtain ⟨items, -⟩ := pulls.of_entry
        cases offered : sink.offer (entry.line json) with
        | mk left events =>
          rw [run_writeListing_offer store json pulled offered]
          cases left with
          | none => exact nofun
          | some sink =>
            -- The entry was one of those that the walk brings, so one less is left.
            rw [← pulls.about.1, ← pulls.about.2] at further
            refine ih sink further ?_ (count + 1)
            rw [itemsOf_append, ← List.append_assoc, items] at enough
            simp only [List.cons_append, List.length_cons] at enough
            omega
      -- An error and the end are results, and only a lack of fuel is none.
      | failed error =>
        rw [run_writeListing_ceased store json pulled nofun]
        exact nofun
      | ended =>
        rw [run_writeListing_ceased store json pulled nofun]
        exact nofun
      | exhausted =>
        -- A pull that gives up has fetched more pages than the walk has.
        have many := pulls.passed.1
        have few := Listing.length_walk_le store listing.bucket listing.keyPrefix steps listing.next
          state
        rw [ended, List.length_append] at few
        omega

end Offer

end ObjectStorage
