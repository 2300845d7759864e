import Mathlib.Algebra.Order.BigOperators.Group.List
import Mathlib.Algebra.Order.Ring.Nat
import ObjectStorage.Proofs.Listing.Consumer
import ObjectStorage.Proofs.Listing.Offered
import ObjectStorage.Proofs.Listing.Pacing

/-! An output that stops taking lines ends a listing at once and without an error: all that happened
before is what happens with an output without limits, and no page is fetched for what comes later.
-/

namespace ObjectStorage

namespace Event

/-- The lines that a trace left on standard output. -/
def taken (trace : List Event) : List String :=
  trace.filterMap fun
    | .wrote line true => some line
    | _ => none

/-- The lines of two traces come one after the other. -/
theorem taken_append (earlier later : List Event) :
    taken (earlier ++ later) = taken earlier ++ taken later := List.filterMap_append

/-- Calls leave no lines. -/
theorem taken_called (made : List Exchange) : taken (made.map .called) = [] := by
  -- A call is not a line, so each of them is left out.
  refine List.filterMap_eq_nil_iff.mpr fun event member => ?_
  obtain ⟨exchange, -, rfl⟩ := List.mem_map.mp member
  rfl

/-- Standard output holds the lines that were taken, each with its end. -/
theorem standardOutput_eq (trace : List Event) :
    standardOutput trace = String.join ((taken trace).map (· ++ "\n")) := by
  -- The induction is on the trace, with one event in front at a time.
  induction trace with
  | nil => rfl
  | cons event trace ih =>
    have split : standardOutput (event :: trace) = event.output ++ standardOutput trace :=
      String.join_cons
    rw [split, ih, ← List.singleton_append, taken_append, List.map_append, String.join_append]
    -- Of all kinds of events only a line that is taken adds to the output.
    match event with
    | .wrote line true => simp [taken, output]
    | .wrote _ false | .loaded _ | .connected _ _ | .called _ | .reported _ =>
      simp [taken, output]

end Event

/-- What a store gives to a consumer that asks a listing again and again. -/
def Listing.Gives {σ : Type} (store : Store σ) (listing : Listing) (state : σ)
    (results : List Pulled) : Prop :=
  ∃ patience : List Nat, ((pullAll store patience listing).run state).value.1 = results

section Limited

variable {σ : Type} (store : Store σ) (json : Bool)

/-- The lines around an entry that is offered. -/
theorem taken_offered (made : List Exchange) (events rest : List Event) :
    Event.taken (made.map .called ++ events ++ rest) = Event.taken events ++ Event.taken rest := by
  -- The calls drop out, and the events of the offer and the rest stand one behind the other.
  rw [Event.taken_append, Event.taken_append, Event.taken_called, List.nil_append]

/-- How a listing to an output with limited room goes in comparison with one to an output without
limits: it is the same up to the first line that finds no room, and there it ends. The consumer has
asked for that entry and for none behind it. -/
structure CutOff (room count : Nat) (listing : Listing) (state : σ)
    (free limited : Outcome Event σ (Option (Except StorageError Nat))) : Prop where
  result : limited.value = some (.ok (count + room))
  cut : ∃ before line behind, free.events = before ++ .wrote line true :: behind ∧
    limited.events = before ++ [.wrote line false] ∧ (Event.taken before).length = room
  pulled : ∃ (patience : List Nat) (entries : List ObjectEntry) (after : Listing),
    entries.length = room + 1 ∧
    (Listing.pullAll store patience listing).run state =
      ⟨(entries.map .entry, after), limited.state, Event.exchanges limited.events⟩

/-- An entry that found no room is written only where there are no limits. -/
theorem cutOff_at_once {fuel : Nat} {listing after : Listing} {state next : σ} {entry : ObjectEntry}
    {made : List Exchange}
    (pulled : (listing.pull store fuel).run state = ⟨(.entry entry, after), next, made⟩)
    (free : Outcome Event σ (Option (Except StorageError Nat))) (count : Nat) (line : String) :
    CutOff store 0 count listing state (free.after (made.map .called ++ [.wrote line true]))
      ⟨some (.ok count), next, made.map .called ++ [.wrote line false]⟩ where
  result := rfl
  cut := by
    -- The fetches alone come before the line, and they leave no line.
    refine ⟨made.map .called, line, free.events, ?_, rfl, ?_⟩
    · simp [Outcome.after]
    · rw [Event.taken_called, List.length_nil]
  pulled := by
    -- One pull was made, and it handed out the entry that found no room.
    refine ⟨[fuel], [entry], after, rfl, ?_⟩
    have calls : Event.exchanges (made.map .called ++ [.wrote line false]) = made := by
      rw [Event.exchanges_append, Event.exchanges_called]
      exact List.append_nil made
    rw [Listing.run_pullAll_cons, pulled, calls]
    simp [Listing.pullAll]

/-- An entry that found room is written in both listings. -/
theorem CutOff.after_entry {fuel room count : Nat} {listing after : Listing} {state next : σ}
    {entry : ObjectEntry} {made : List Exchange}
    {free limited : Outcome Event σ (Option (Except StorageError Nat))}
    (pulled : (listing.pull store fuel).run state = ⟨(.entry entry, after), next, made⟩)
    (rest : CutOff store room (count + 1) after next free limited) (line : String) :
    CutOff store (room + 1) count listing state
      (free.after (made.map .called ++ [.wrote line true]))
      (limited.after (made.map .called ++ [.wrote line true])) := by
  -- The rest is cut off somewhere; in front of its events stand the same fetches and the same line.
  obtain ⟨result, ⟨before, last, behind, whole, cut, full⟩, patience, entries, latest, length,
    pulls⟩ := rest
  refine ⟨?_, ⟨made.map .called ++ [.wrote line true] ++ before, last, behind, ?_, ?_, ?_⟩,
    fuel :: patience, entry :: entries, latest, by rw [List.length_cons, length], ?_⟩
  · -- One entry more is counted, and one line more has room.
    simp only [Outcome.after, result]
    congr 2
    omega
  · simp only [Outcome.after, whole, List.append_assoc]
  · simp only [Outcome.after, cut, List.append_assoc]
  · -- The line of the entry is taken before those of the rest.
    rw [taken_offered, List.length_append, full]
    exact Nat.add_comm 1 room
  · -- The consumer has asked once more, and for this entry first.
    rw [Listing.run_pullAll_cons, pulled]
    simp only [pulls, Outcome.after, exchanges_entry, List.map_cons]

/-- A listing to an output with limited room is cut off, or it is no different from a listing to an
output without limits, since all lines found room. -/
theorem cutOff_writeListing (fuel room : Nat) (listing : Listing) (count : Nat) (state : σ) :
    let free := (writeListing store json fuel (.output none) listing count).run state
    let limited := (writeListing store json fuel (.output (some room)) listing count).run state
    (limited = free ∧ (Event.taken free.events).length ≤ room) ∨
      CutOff store room count listing state free limited := by
  -- Every entry costs fuel, so the induction is on the fuel, for a listing in any condition.
  induction fuel generalizing room listing count state with
  | zero => exact .inl ⟨rfl, Nat.zero_le _⟩
  | succ fuel ih =>
    cases pulled : (listing.pull store fuel).run state with
    | mk value next made =>
      obtain ⟨answer, after⟩ := value
      by_cases handed : ∃ entry, answer = .entry entry
      · obtain ⟨entry, rfl⟩ := handed
        rw [run_writeListing_entry store json pulled]
        cases room with
        | zero =>
          -- There is no room for this line.
          have offered : (Sink.output (some 0)).offer (entry.line json) =
            (none, [.wrote (entry.line json) false]) := rfl
          rw [run_writeListing_offer store json pulled offered]
          simp only [Outcome.after, Option.elim_none, List.append_nil]
          exact .inr (cutOff_at_once store pulled _ count _)
        | succ room =>
          have offered : (Sink.output (some (room + 1))).offer (entry.line json) =
            (some (.output (some room)), [.wrote (entry.line json) true]) := rfl
          rw [run_writeListing_offer store json pulled offered]
          -- This line has room, and whether all others have is known by induction.
          rcases ih room after (count + 1) next with ⟨same, few⟩ | rest
          · refine .inl ⟨congrArg (Outcome.after _) same, ?_⟩
            simp only [Outcome.after, taken_offered, List.length_append]
            exact Nat.add_comm 1 room ▸ Nat.add_le_add_left few 1
          · exact .inr (rest.after_entry store pulled _)
      · -- Without an entry nothing is offered to the output.
        have ceased := not_exists.mp handed
        rw [run_writeListing_ceased store json pulled ceased,
          run_writeListing_ceased store json pulled ceased]
        refine .inl ⟨rfl, ?_⟩
        simp only [Event.taken_called]
        exact Nat.zero_le _

section Ample

variable {patience : List Nat} {fuel : Nat} {listing : Listing} {state : σ}

/-- The first thing that a store gives comes of any pull that may fetch as much, and the other
things come behind it. -/
theorem Listing.pulled_of_pullAll {fetches : Nat} {pulled : Pulled} {results : List Pulled}
    (given : ((pullAll store (fetches :: patience) listing).run state).value.1 = pulled :: results)
    (answered : pulled ≠ .exhausted) (ample : fetches ≤ fuel) :
    ∃ after next made, (listing.pull store fuel).run state = ⟨(pulled, after), next, made⟩ ∧
      ((pullAll store patience after).run next).value.1 = results := by
  -- The results of all pulls begin with that of the first.
  rw [run_pullAll_cons] at given
  obtain ⟨rfl, others⟩ := List.cons.inj given
  -- The pull answered, so more fetches change nothing about it.
  rw [run_pull_of_le store ample listing state answered]
  exact ⟨_, _, _, rfl, others⟩

/-- The entries that a store gives are written one after another where there are no limits, and with
fuel for every pull the listing goes on with what is given behind them. -/
theorem run_writeListing_of_pullAll {entries : List ObjectEntry} {others : List Pulled}
    (given : ((Listing.pullAll store patience listing).run state).value.1 =
      entries.map .entry ++ others)
    (ample : ∀ fetches ∈ patience, fetches + patience.length ≤ fuel) (count : Nat) :
    ∃ before left spare after next,
      (writeListing store json fuel (.output none) listing count).run state =
        ((writeListing store json spare (.output none) after (count + entries.length)).run
          next).after before ∧
      (Event.taken before).length = entries.length ∧
      ((Listing.pullAll store left after).run next).value.1 = others ∧
      ∀ fetches ∈ left, fetches + left.length ≤ spare := by
  -- Every entry takes one pull of the consumer, so the induction is on the entries.
  induction entries generalizing patience fuel listing state count with
  | nil => exact ⟨[], patience, fuel, listing, state, rfl, rfl, given, ample⟩
  | cons entry entries ih =>
    cases patience with
    -- A consumer who has not asked has received no entry.
    | nil => exact nomatch given
    | cons fetches patience =>
      -- One unit of fuel is for this entry, and the others are for its pull and the rest.
      obtain ⟨first, later⟩ := List.forall_mem_cons.mp ample
      rw [List.length_cons] at first later
      obtain ⟨fuel, rfl⟩ := Nat.exists_eq_add_of_le' (show 1 ≤ fuel by omega)
      obtain ⟨after, next, made, pulled, rest⟩ :=
        Listing.pulled_of_pullAll store given nofun (show fetches ≤ fuel by omega)
      have spare : ∀ fetches ∈ patience, fetches + patience.length ≤ fuel := by
        intro fetches member
        have enough := later fetches member
        omega
      obtain ⟨before, left, fuel', latest, last, run, length, goesOn⟩ := ih rest spare (count + 1)
      refine ⟨made.map .called ++ [.wrote (entry.line json) true] ++ before, left, fuel', latest,
        last, ?_, ?_, goesOn⟩
      · rw [run_writeListing_entry store json pulled, run, List.length_cons, Nat.add_assoc,
          Nat.add_comm 1]
        simp only [Outcome.after, List.append_assoc]
      · rw [taken_offered, List.length_append, length]
        exact Nat.add_comm 1 _

/-- All entries that a store gives are written where there are no limits, with fuel for every pull.
-/
theorem length_le_of_pullAll {entries : List ObjectEntry} (count : Nat)
    (given : ((Listing.pullAll store patience listing).run state).value.1 = entries.map .entry)
    (ample : ∀ fetches ∈ patience, fetches + patience.length ≤ fuel) :
    entries.length ≤ (Event.taken
      ((writeListing store json fuel (.output none) listing count).run state).events).length := by
  -- The lines of the entries are among all lines that are taken.
  obtain ⟨before, left, spare, after, next, run, length, -⟩ :=
    run_writeListing_of_pullAll store json (given.trans (List.append_nil _).symm) ample count
  rw [run]
  simp only [Outcome.after, Event.taken_append, List.length_append, length]
  exact Nat.le_add_right _ _

/-- What ends the entries that a store gives is the result of a listing without limits, and no more
than the entries are written, with fuel for every pull. -/
theorem ends_of_pullAll {entries : List ObjectEntry} {last : Pulled}
    {result : Except StorageError Nat} (count : Nat)
    (given : ((Listing.pullAll store patience listing).run state).value.1 =
      entries.map .entry ++ [last])
    (ends : last.result? (count + entries.length) = some result)
    (ample : ∀ fetches ∈ patience, fetches + patience.length ≤ fuel) :
    let outcome := (writeListing store json fuel (.output none) listing count).run state
    outcome.value = some result ∧ (Event.taken outcome.events).length = entries.length := by
  -- Behind the entries there is one pull more, and it does not hand out an entry.
  obtain ⟨before, left, spare, after, next, run, length, rest, enough⟩ :=
    run_writeListing_of_pullAll store json given ample count
  cases left with
  | nil => exact nomatch rest
  | cons fetches left =>
    have first := (List.forall_mem_cons.mp enough).1
    rw [List.length_cons] at first
    obtain ⟨spare, rfl⟩ := Nat.exists_eq_add_of_le' (show 1 ≤ spare by omega)
    -- What has a result is neither an entry nor a pull that gave up.
    have answered : last ≠ .exhausted := by
      rintro rfl
      exact nomatch ends
    have ceased : ∀ entry, last ≠ .entry entry := by
      rintro entry rfl
      exact nomatch ends
    obtain ⟨latest, final, made, pulled, -⟩ :=
      Listing.pulled_of_pullAll store rest answered (show fetches ≤ spare by omega)
    rw [run, run_writeListing_ceased store json pulled ceased]
    simp only [Outcome.after, Event.taken_append, Event.taken_called, List.append_nil]
    exact ⟨ends, length⟩

end Ample

/-- Fuel that is enough for all pulls of a consumer. -/
theorem ample_of_sum_le {patience : List Nat} {fuel : Nat}
    (enough : patience.sum + patience.length ≤ fuel) :
    ∀ fetches ∈ patience, fetches + patience.length ≤ fuel := by
  -- No pull has more patience than all pulls together.
  intro fetches member
  have least := List.le_sum_of_mem member
  omega

/-- How a listing ends whose output takes so many lines and fails at the next. -/
structure Ceases (room : Nat) (free limited : Outcome Event σ (Option (Except StorageError Nat))) :
    Prop where
  result : limited.value = some (.ok room)
  /-- All is as with an output without limits, up to the first line that is not taken. -/
  cut : ∃ before line behind, free.events = before ++ .wrote line true :: behind ∧
    limited.events = before ++ [.wrote line false]
  more : room < (Event.taken free.events).length
  output : Event.standardOutput limited.events =
    String.join (((Event.taken free.events).take room).map (· ++ "\n"))
  /-- No fewer fetches would have brought the entry whose line is not taken. -/
  lazy : ∀ fetches, room < (itemsOf ((Event.exchanges limited.events).take fetches)).length ↔
    (Event.exchanges limited.events).length ≤ fetches

/-- A listing that is cut off ceases at the line that finds no room. -/
theorem CutOff.ceases {room : Nat} {bucket keyPrefix : String} {state : σ}
    {free limited : Outcome Event σ (Option (Except StorageError Nat))}
    (cutOff : CutOff store room 0 (.start bucket keyPrefix) state free limited) :
    Ceases room free limited := by
  -- The line that finds no room is the first behind those that were taken.
  obtain ⟨result, ⟨before, line, behind, whole, cut, full⟩, patience, entries, after, length,
    pulls⟩ := cutOff
  have lines : Event.taken free.events = Event.taken before ++ line :: Event.taken behind := by
    rw [whole, Event.taken_append]
    rfl
  refine ⟨?_, ⟨before, line, behind, whole, cut⟩, ?_, ?_, ?_⟩
  · rw [result, Nat.zero_add]
  · -- At least that line stands behind those that had room.
    rw [lines, List.length_append, full, List.length_cons]
    omega
  · -- Standard output holds the lines before it and no others.
    have latest : Event.taken limited.events = Event.taken before := by
      rw [cut, Event.taken_append]
      exact List.append_nil _
    rw [Event.standardOutput_eq, latest, lines, ← full, List.take_left]
  · -- The consumer has received one entry more than lines were taken, and nothing else.
    have streams := Listing.streams_pullAll store bucket keyPrefix patience state
    rw [pulls] at streams
    have received : Listing.received (entries.map Pulled.entry) = entries.map .entry :=
      List.filter_eq_self.mpr (List.forall_mem_map.mpr fun _ _ => rfl)
    have lazy := streams.lazy fun pulled latest => by
      rw [List.getLast?_map] at latest
      obtain ⟨entry, -, rfl⟩ := Option.map_eq_some_iff.mp latest
      exact ⟨entry, rfl⟩
    simp only [received, List.length_map, length] at lazy
    exact lazy

end Limited

/-- An output that takes so many lines and then fails ends a listing at once and quietly, if the
store gives an entry more; otherwise the listing goes as it goes without limits. In both cases every
line is written behind the fetch of its page and before the next page is asked for. -/
theorem closed_output_ends_listing {σ : Type} (store : Store σ) (json : Bool)
    (bucket keyPrefix : String) (state : σ) (room : Nat) :
    let listing := Listing.start bucket keyPrefix
    let written := fun fuel limit =>
      (writeListing store json fuel (.output limit) listing 0).run state
    (∀ entries : List ObjectEntry, listing.Gives store state (entries.map .entry) →
      room < entries.length →
      ∃ enough, ∀ fuel, enough ≤ fuel →
        Ceases room (written fuel none) (written fuel (some room))) ∧
    ((∀ entries : List ObjectEntry, listing.Gives store state (entries.map .entry) →
      entries.length ≤ room) → ∀ fuel, written fuel (some room) = written fuel none) ∧
    (∀ (entries : List ObjectEntry) (last : Pulled) (result : Except StorageError Nat),
      listing.Gives store state (entries.map .entry ++ [last]) →
      last.result? entries.length = some result → entries.length ≤ room →
      ∃ enough, ∀ fuel, enough ≤ fuel → (written fuel (some room)).value = some result) ∧
    ∀ fuel limit, Paced json [] (written fuel limit).events := by
  -- Each part compares the listing with the same listing to an output without limits.
  intro listing written
  refine ⟨?_, ?_, ?_, fun fuel limit => paced_writeListing store json fuel limit listing 0 state⟩
  · rintro entries ⟨patience, given⟩ more
    refine ⟨patience.sum + patience.length, fun fuel enough => ?_⟩
    -- Without limits all entries are written, which is more than there is room for.
    have many := length_le_of_pullAll store json 0 given (ample_of_sum_le enough)
    rcases cutOff_writeListing store json fuel room listing 0 state with ⟨-, few⟩ | cutOff
    · exact absurd more (Nat.not_lt.mpr (Nat.le_trans many few))
    · exact cutOff.ceases store
  · intro few fuel
    rcases cutOff_writeListing store json fuel room listing 0 state with ⟨same, -⟩ | cutOff
    · exact same
    · -- A listing that is cut off has received one entry too many.
      obtain ⟨-, -, patience, entries, after, length, pulls⟩ := cutOff
      have least := few entries ⟨patience, by rw [pulls]⟩
      omega
  · rintro entries last result ⟨patience, given⟩ ends fits
    refine ⟨patience.sum + patience.length, fun fuel enough => ?_⟩
    obtain ⟨value, all⟩ := ends_of_pullAll store json 0 given (by rwa [Nat.zero_add])
      (ample_of_sum_le enough)
    rcases cutOff_writeListing store json fuel room listing 0 state with ⟨same, -⟩ | cutOff
    · exact (congrArg Outcome.value same).trans value
    · -- A listing is cut off only where more is written without limits than there is room for.
      have more := (cutOff.ceases store).more
      omega

end ObjectStorage
