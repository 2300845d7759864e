import ObjectStorage.Execution
import ObjectStorage.Proofs.Listing.Pull

/-! A listing that is written to an output without limits leaves a line for every entry that was
fetched, and ends as fetching ends. -/

namespace ObjectStorage

namespace Event

/-- What two traces leave on standard output comes one after the other. -/
theorem standardOutput_append (earlier later : List Event) :
    standardOutput (earlier ++ later) = standardOutput earlier ++ standardOutput later := by
  -- Each event adds its text behind that of the events before it.
  rw [standardOutput, List.map_append, String.join_append]
  rfl

/-- The calls of two traces come one after the other. -/
theorem exchanges_append (earlier later : List Event) :
    exchanges (earlier ++ later) = exchanges earlier ++ exchanges later :=
  List.filterMap_append

/-- Calls leave nothing on standard output. -/
theorem standardOutput_called (made : List Exchange) : standardOutput (made.map .called) = "" := by
  induction made with
  | nil => rfl
  -- A call in front adds no text.
  | cons exchange made ih =>
    rw [List.map_cons, ← List.singleton_append, standardOutput_append, ih]
    rfl

/-- Calls are told of as they were made. -/
theorem exchanges_called (made : List Exchange) : exchanges (made.map .called) = made := by
  induction made with
  | nil => rfl
  -- A call in front is told of in front.
  | cons exchange made ih =>
    rw [List.map_cons, ← List.singleton_append, exchanges_append, ih]
    rfl

end Event

/-- The result of a listing of which so many entries were written, if it ends with this pull. -/
def Pulled.result? (count : Nat) : Pulled → Option (Except StorageError Nat)
  | .entry _ => none
  | .failed error => some (.error error)
  | .ended => some (.ok count)
  | .exhausted => none

/-- What the lines of a listing leave on standard output. -/
def printed (json : Bool) (items : List ObjectEntry) : String :=
  String.join (items.map fun entry => entry.line json ++ "\n")

/-- Leaving events behind, one after another. -/
theorem Session.run_forM_emit {ε σ : Type} (events : List ε) (state : σ) :
    (events.forM (Session.emit : ε → Session ε σ Unit)).run state = ⟨⟨⟩, state, events⟩ := by
  -- The events are left one by one, in their order.
  induction events with
  | nil => rfl
  | cons event events ih =>
    change (Session.emit event >>= fun _ => events.forM Session.emit).run state = _
    rw [Session.run_bind, Session.run_emit, ih]
    rfl

variable {σ : Type} (store : Store σ) (json : Bool)

/-- Nothing is printed for no entries. -/
theorem printed_nil : printed json [] = "" := rfl

/-- An entry is printed in front of those behind it. -/
theorem printed_cons (entry : ObjectEntry) (items : List ObjectEntry) :
    printed json (entry :: items) = entry.line json ++ "\n" ++ printed json items :=
  String.join_cons

/-- An entry that is handed out is offered to the sink, which decides if the listing goes on. -/
theorem run_writeListing_offer {fuel : Nat} {listing after : Listing} {state next : σ}
    {entry : ObjectEntry} {made : List Exchange} {sink : Sink} {left : Option Sink}
    {events : List Event}
    (pulled : (listing.pull store fuel).run state = ⟨(.entry entry, after), next, made⟩)
    (offered : sink.offer (entry.line json) = (left, events)) (count : Nat) :
    (writeListing store json (fuel + 1) sink listing count).run state =
      (left.elim ⟨some (.ok count), next, []⟩ fun sink =>
        (writeListing store json fuel sink after (count + 1)).run next).after
          (made.map .called ++ events) := by
  -- The run of the pull is known, and so is what the sink makes of the line.
  rw [writeListing, Session.run_bind, Session.run_mapEvents, pulled]
  dsimp only
  rw [offered, Session.run_bind, Session.run_forM_emit]
  -- The events of the rest stand behind those of the offer.
  cases left with
  | none => simp [Outcome.after]
  | some sink => simp [Outcome.after]

/-- An output without limits takes the line of an entry. -/
theorem run_writeListing_entry {fuel : Nat} {listing after : Listing} {state next : σ}
    {entry : ObjectEntry} {made : List Exchange}
    (pulled : (listing.pull store fuel).run state = ⟨(.entry entry, after), next, made⟩)
    (count : Nat) :
    (writeListing store json (fuel + 1) (.output none) listing count).run state =
      ((writeListing store json fuel (.output none) after (count + 1)).run next).after
        (made.map .called ++ [.wrote (entry.line json) true]) :=
  run_writeListing_offer store json pulled rfl count

/-- Where no entry is handed out, nothing more is written. -/
theorem run_writeListing_ceased {fuel : Nat} {sink : Sink} {listing after : Listing}
    {state next : σ} {pulled : Pulled} {made : List Exchange}
    (run : (listing.pull store fuel).run state = ⟨(pulled, after), next, made⟩)
    (ceased : ∀ entry, pulled ≠ .entry entry) (count : Nat) :
    (writeListing store json (fuel + 1) sink listing count).run state =
      ⟨pulled.result? count, next, made.map .called⟩ := by
  rw [writeListing, Session.run_bind, Session.run_mapEvents, run]
  -- All that can be pulled but an entry gives a result at once.
  cases pulled with
  | entry entry => exact absurd rfl (ceased entry)
  | failed error => simp [Pulled.result?]
  | ended => simp [Pulled.result?]
  | exhausted => simp [Pulled.result?]

/-- The calls around an entry that is written. -/
theorem exchanges_entry (made : List Exchange) (line : String) (rest : List Event) :
    Event.exchanges (made.map .called ++ [.wrote line true] ++ rest) =
      made ++ Event.exchanges rest := by
  -- Writing is no call.
  rw [Event.exchanges_append, Event.exchanges_append, Event.exchanges_called]
  exact congrArg (· ++ _) (List.append_nil made)

/-- The output around an entry that is written. -/
theorem standardOutput_entry (made : List Exchange) (line : String) (rest : List Event) :
    Event.standardOutput (made.map .called ++ [.wrote line true] ++ rest) =
      line ++ "\n" ++ Event.standardOutput rest := by
  -- Calling is no output, and what is written ends its line.
  rw [Event.standardOutput_append, Event.standardOutput_append, Event.standardOutput_called,
    String.empty_append]
  simp [Event.standardOutput, Event.output]

/-- What comes of a listing that is written to an output without limits, if anything does: the
listing is walked to its end, a line is left for every entry, and an error is kept. -/
structure Written (listing : Listing) (count : Nat) (state : σ) (result : Except StorageError Nat)
    (outcome : Outcome Event σ (Option (Except StorageError Nat))) : Prop where
  walks : ∃ steps,
    (Listing.walk store listing.bucket listing.keyPrefix steps listing.next).run state =
      ⟨.nothing, outcome.state, Event.exchanges outcome.events⟩
  output : Event.standardOutput outcome.events =
    printed json (listing.pending ++ itemsOf (Event.exchanges outcome.events))
  result : result = (failureOf (Event.exchanges outcome.events)).elim
    (.ok (count + (listing.pending ++ itemsOf (Event.exchanges outcome.events)).length)) .error

/-- A listing that is written to the end is written as it is walked. -/
theorem written_of_finished (fuel : Nat) {listing : Listing} {count : Nat} {state : σ}
    {result : Except StorageError Nat}
    (finished : ((writeListing store json fuel (.output none) listing count).run state).value =
      some result) :
    Written store json listing count state result
      ((writeListing store json fuel (.output none) listing count).run state) := by
  -- Every entry costs fuel, so the induction is on the fuel, for a listing in any condition.
  induction fuel generalizing listing count state with
  | zero => exact nomatch finished
  | succ fuel ih =>
    have pulling := Listing.pulling_pull store fuel listing state
    cases pulled : (listing.pull store fuel).run state with
    | mk value next made =>
      obtain ⟨answer, after⟩ := value
      rw [pulled] at pulling
      obtain ⟨pulls, steps, walks⟩ := pulling
      dsimp only at pulls walks
      cases answer with
      | entry entry =>
        -- The entry is the first of those that waited or were fetched; the rest is written next.
        rw [run_writeListing_entry store json pulled] at finished ⊢
        obtain ⟨⟨more, further⟩, output, result⟩ := ih finished
        obtain ⟨items, fine⟩ := pulls.of_entry
        rw [pulls.about.1, pulls.about.2] at further
        refine ⟨⟨steps + more, ?_⟩, ?_, ?_⟩ <;>
          simp only [Outcome.after, exchanges_entry, standardOutput_entry, itemsOf_append,
            failureOf_append, fine, Option.none_or, ← List.append_assoc, items]
        · rw [Listing.walk_add, Session.run_bind, walks, further]
        · rw [output, List.cons_append, printed_cons]
        · rw [result, List.cons_append, List.length_cons]
          congr 2
          omega
      | failed error =>
        -- Nothing was left to write, and the error is the result.
        rw [run_writeListing_ceased store json pulled nofun] at finished ⊢
        obtain ⟨items, failure, last⟩ := pulls.of_failed
        cases finished
        refine ⟨⟨steps, ?_⟩, ?_, ?_⟩ <;> dsimp only <;> rw [Event.exchanges_called]
        · rw [walks, last]
        · rw [Event.standardOutput_called, items, printed_nil]
        · rw [failure]
          rfl
      | ended =>
        -- Nothing was left to write, and the count is the result.
        rw [run_writeListing_ceased store json pulled nofun] at finished ⊢
        obtain ⟨items, fine, last⟩ := pulls.of_ended
        cases finished
        refine ⟨⟨steps, ?_⟩, ?_, ?_⟩ <;> dsimp only <;> rw [Event.exchanges_called]
        · rw [walks, last]
        · rw [Event.standardOutput_called, items, printed_nil]
        · rw [fine, items]
          rfl
      | exhausted =>
        -- A pull that gave up leaves the listing unfinished.
        rw [run_writeListing_ceased store json pulled nofun] at finished
        exact nomatch finished

end ObjectStorage
