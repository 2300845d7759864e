import ObjectStorage.Proofs.Listing.Stream
import ObjectStorage.ScriptedStore

/-! A consumer that asks a listing again and again receives one stream, which depends on the entries
that the store serves and on nothing else. -/

namespace ObjectStorage.Listing

variable {σ : Type} (store : Store σ)

/-- Asks for one entry after another, each time with some patience for pages without entries. -/
def pullAll : List Nat → Listing → Session Exchange σ (List Pulled × Listing)
  | [], listing => pure ([], listing)
  | fetches :: patience, listing => do
    let (pulled, listing) ← listing.pull store fetches
    let (others, listing) ← pullAll patience listing
    return (pulled :: others, listing)

/-- The first pull, and all others behind it. -/
theorem run_pullAll_cons (fetches : Nat) (patience : List Nat) (listing : Listing) (state : σ) :
    (pullAll store (fetches :: patience) listing).run state =
      let first := (listing.pull store fetches).run state
      let others := (pullAll store patience first.value.2).run first.state
      ⟨(first.value.1 :: others.value.1, others.value.2), others.state,
        first.events ++ others.events⟩ := by
  -- Putting the results together leaves no event.
  simp only [pullAll, Session.run_bind, Session.run_pure, List.append_nil]

/-- Every pull gives one result. -/
theorem length_results (patience : List Nat) (listing : Listing) (state : σ) :
    ((pullAll store patience listing).run state).value.1.length = patience.length := by
  -- Each pull puts one result in front of the others.
  induction patience generalizing listing state with
  | nil => rfl
  | cons fetches patience ih =>
    rw [run_pullAll_cons, List.length_cons, List.length_cons, ih]

/-- What is known of a listing stays known however often it is asked. -/
theorem given_pullAll (patience : List Nat) {made : List Exchange} {results : List Pulled}
    {listing : Listing} (given : Given made results listing) (state : σ) :
    Given (made ++ ((pullAll store patience listing).run state).events)
      (results ++ ((pullAll store patience listing).run state).value.1)
      ((pullAll store patience listing).run state).value.2 := by
  -- One pull keeps what is known, so all pulls do.
  induction patience generalizing made results listing state with
  | nil => simpa [pullAll] using given
  | cons fetches patience ih =>
    -- What the pull fetched is a walk, so what is known of a walk holds of it too.
    have first := pulling_pull store fetches listing state
    obtain ⟨count, walks⟩ := first.walks
    have walked := walked_walk store listing.bucket listing.keyPrefix count listing.next state
    rw [walks] at walked
    have others := ih (given.step first.pulls walked) ((listing.pull store fetches).run state).state
    rw [run_pullAll_cons]
    simpa using others

/-- What is known of a listing that was asked from its start on. -/
theorem given_pullAll_start (bucket keyPrefix : String) (patience : List Nat) (state : σ) :
    Given ((pullAll store patience (start bucket keyPrefix)).run state).events
      ((pullAll store patience (start bucket keyPrefix)).run state).value.1
      ((pullAll store patience (start bucket keyPrefix)).run state).value.2 := by
  -- At the start nothing was fetched and nothing was received.
  have given := given_pullAll store patience (given_start bucket keyPrefix) state
  rwa [List.nil_append, List.nil_append] at given

/-- Pulls fetch as a walk does. -/
theorem walk_pullAll (patience : List Nat) (listing : Listing) (state : σ) :
    ∃ count, (walk store listing.bucket listing.keyPrefix count listing.next).run state =
      ⟨((pullAll store patience listing).run state).value.2.next,
        ((pullAll store patience listing).run state).state,
        ((pullAll store patience listing).run state).events⟩ := by
  -- The walk of the first pull is followed by that of the others.
  induction patience generalizing listing state with
  | nil => exact ⟨0, rfl⟩
  | cons fetches patience ih =>
    have first := pulling_pull store fetches listing state
    obtain ⟨count, walks⟩ := first.walks
    obtain ⟨more, others⟩ := ih ((listing.pull store fetches).run state).value.2
      ((listing.pull store fetches).run state).state
    rw [first.pulls.about.1, first.pulls.about.2] at others
    refine ⟨count + more, ?_⟩
    rw [walk_add, Session.run_bind, walks, run_pullAll_cons, others]

/-- A pull that gave up fetched as many pages as it might, and none of them had entries. -/
theorem passed_pullAll (patience : List Nat) (listing : Listing) (state : σ) {index fetches : Nat}
    (asked : patience[index]? = some fetches)
    (gaveUp : ((pullAll store patience listing).run state).value.1[index]? = some .exhausted) :
    ∃ window, window <:+: ((pullAll store patience listing).run state).events ∧
      window.length = fetches ∧ ∀ exchange ∈ window, exchange.Passed := by
  -- The pull is looked for from the first one on.
  induction patience generalizing listing state index with
  | nil => simp at asked
  | cons first patience ih =>
    rw [run_pullAll_cons] at gaveUp ⊢
    cases index with
    | zero =>
      -- The first pull gave up by itself.
      have pulls := (pulling_pull store first listing state).pulls
      rw [Option.some.inj gaveUp] at pulls
      obtain rfl := Option.some.inj asked
      exact ⟨_, (List.prefix_append _ _).isInfix, pulls.passed⟩
    | succ index =>
      -- What the others fetched stands behind what the first fetched.
      obtain ⟨window, inside, length, passed⟩ := ih _ _ asked gaveUp
      exact ⟨window, inside.trans (List.suffix_append _ _).isInfix, length, passed⟩

/-- What holds of every listing, whatever the store answers: the results that a consumer gets who
asks with some patience, and the fetches made for them. -/
structure Streams (bucket keyPrefix : String) (patience : List Nat) (results : List Pulled)
    (made : List Exchange) : Prop where
  /-- The first fetch asks for the first page. -/
  first : ∀ exchange ∈ made.head?, exchange.call = .listPage bucket keyPrefix none
  /-- Every other asks for the next page of one that is cut short, with the token of that page. -/
  chain : made.IsChain (Continues bucket keyPrefix)
  /-- The consumer is told something each time. -/
  told : results.length = patience.length
  /-- It receives the entries of the pages in order, then the error if one was met, then the end. -/
  script : received results =
    stream (itemsOf made) (failureOf made) (received results).length
  /-- The error or the end comes only when no page follows. -/
  ceased : (∃ pulled ∈ results, pulled.final = true) →
    ∃ last ∈ made.getLast?, last.continuation = .nothing
  /-- After an entry, no fewer fetches would have brought all entries that were received. -/
  lazy : (∀ pulled ∈ results.getLast?, ∃ entry, pulled = .entry entry) →
    ∀ count, (received results).length ≤ (itemsOf (made.take count)).length ↔
      made.length ≤ count
  /-- Only so many pages without entries in a row as its patience allows let a pull give up. -/
  patient : ∀ index fetches : Nat, patience[index]? = some fetches →
    results[index]? = some .exhausted →
    ∃ window, window <:+: made ∧ window.length = fetches ∧ ∀ exchange ∈ window, exchange.Passed

/-- Fewer fetches bring no more entries than all but the last. -/
theorem length_itemsOf_take_le {made : List Exchange} {count : Nat} (fewer : count < made.length) :
    (itemsOf (made.take count)).length ≤ (itemsOf made.dropLast).length := by
  -- They are the beginning of all but the last.
  have beginning : made.take count <+: made.dropLast := by
    rw [List.dropLast_eq_take]
    exact List.take_prefix_take_left (by omega)
  -- What comes behind the beginning only adds entries.
  obtain ⟨rest, split⟩ := beginning
  rw [← split, itemsOf_append, List.length_append]
  exact Nat.le_add_right _ _

/-- Once nothing follows, the last fetch was not followed by another. -/
theorem Given.exists_last {made : List Exchange} {results : List Pulled} {listing : Listing}
    (given : Given made results listing) (last : listing.next = .nothing) :
    ∃ exchange ∈ made.getLast?, exchange.continuation = .nothing := by
  -- Without a fetch the first page would still be asked for.
  have decided := given.walked.last_eq
  rw [last] at decided
  cases found : made.getLast? with
  | none => exact nomatch found ▸ decided
  | some exchange =>
    rw [found] at decided
    exact ⟨exchange, rfl, decided.symm⟩

/-- A listing of which so much is known was lazy. -/
theorem Given.lazy {made : List Exchange} {results : List Pulled} {listing : Listing}
    (given : Given made results listing) {entry : ObjectEntry}
    (latest : results.getLast? = some (.entry entry)) (count : Nat) :
    (received results).length ≤ (itemsOf (made.take count)).length ↔ made.length ≤ count := by
  -- Before the last fetch the listing had fewer entries than were received.
  obtain ⟨more, enough⟩ := given.prompt (.inr ⟨entry, latest⟩)
  constructor
  · intro within
    rcases Nat.lt_or_ge count made.length with fewer | all
    · -- With one fetch fewer the latest entry was not there yet.
      have below := length_itemsOf_take_le fewer
      omega
    · exact all
  · -- All fetches brought all entries.
    intro all
    rwa [List.take_of_length_le all]

/-- A listing keeps to its bucket and its prefix. -/
theorem about_pullAll (patience : List Nat) (listing : Listing) (state : σ) :
    ((pullAll store patience listing).run state).value.2.bucket = listing.bucket ∧
      ((pullAll store patience listing).run state).value.2.keyPrefix = listing.keyPrefix := by
  -- No pull changes either of them, so the induction is on the pulls.
  induction patience generalizing listing state with
  | nil => exact ⟨rfl, rfl⟩
  | cons fetches patience ih =>
    -- The first pull keeps them, and the others begin with what it left.
    have about := (pulling_pull store fetches listing state).pulls.about
    rw [run_pullAll_cons, ← about.1, ← about.2]
    exact ih _ _

/-- Every listing is a stream. -/
theorem streams_pullAll (bucket keyPrefix : String) (patience : List Nat) (state : σ) :
    Streams bucket keyPrefix patience
      ((pullAll store patience (start bucket keyPrefix)).run state).value.1
      ((pullAll store patience (start bucket keyPrefix)).run state).events := by
  -- All of this is known of a listing from its start on; here it is only read off.
  have given := given_pullAll_start store bucket keyPrefix patience state
  have about := about_pullAll store patience (start bucket keyPrefix) state
  have told := length_results store patience (start bucket keyPrefix) state
  have walked := given.walked
  rw [about.1, about.2] at walked
  refine ⟨fun exchange head => ?_, walked.chain, told, given.script, ?_, ?_, ?_⟩
  · -- A listing begins with the first page.
    obtain ⟨token, asked, call⟩ := walked.head exchange head
    cases asked
    exact call
  · -- After the error or the end nothing is left to ask for.
    rintro ⟨pulled, member, final⟩
    exact given.exists_last (given.ceased pulled member final)
  · intro latest count
    cases found : ((pullAll store patience (start bucket keyPrefix)).run
      state).value.1.getLast? with
    | some pulled =>
      obtain ⟨entry, rfl⟩ := latest pulled found
      exact given.lazy found count
    | none =>
      -- A consumer that has not asked has made nothing be fetched.
      have none : patience = [] := by
        rw [List.getLast?_eq_none_iff.mp found] at told
        exact List.length_eq_zero_iff.mp told.symm
      subst none
      simp [pullAll, received, itemsOf]
  · exact fun _ _ => passed_pullAll store patience _ state

/-- A store serves a sequence of entries with an ending if they are what its pages bring, fetched
one after another until none follows. -/
def Serves (bucket keyPrefix : String) (state : σ) (items : List ObjectEntry)
    (failure : Option StorageError) : Prop :=
  ∃ count, ((walk store bucket keyPrefix count .first).run state).value = .nothing ∧
    itemsOf ((walk store bucket keyPrefix count .first).run state).events = items ∧
    failureOf ((walk store bucket keyPrefix count .first).run state).events = failure

section Serves

variable {store} {bucket keyPrefix : String} {state : σ} {items : List ObjectEntry}
  {failure : Option StorageError}

/-- What a consumer makes be fetched is the beginning of what a walk to the end fetches, and all of
it if nothing follows. -/
theorem made_of_walk {count : Nat}
    (ended : ((walk store bucket keyPrefix count .first).run state).value = .nothing)
    (patience : List Nat) :
    ((pullAll store patience (start bucket keyPrefix)).run state).events <+:
        ((walk store bucket keyPrefix count .first).run state).events ∧
      (((pullAll store patience (start bucket keyPrefix)).run state).value.2.next = .nothing →
        ((pullAll store patience (start bucket keyPrefix)).run state).events =
          ((walk store bucket keyPrefix count .first).run state).events) := by
  -- Both are walks from the first page, and one that came to the end is the longer one.
  obtain ⟨other, walks⟩ := walk_pullAll store patience (start bucket keyPrefix) state
  change (walk store bucket keyPrefix other .first).run state = _ at walks
  have fetched := walk_prefix store bucket keyPrefix ended other
  rw [walks] at fetched
  refine ⟨fetched, fun last => ?_⟩
  have stopped : ((walk store bucket keyPrefix other .first).run state).value = .nothing := by
    rw [walks, last]
  have all := walk_prefix store bucket keyPrefix stopped count
  rw [walks] at all
  exact fetched.eq_of_length_le all.length_le

/-- What a consumer receives is the beginning of the stream of all that the store serves. -/
theorem Serves.received_eq (serves : Serves store bucket keyPrefix state items failure)
    (patience : List Nat) :
    received ((pullAll store patience (start bucket keyPrefix)).run state).value.1 =
      stream items failure (received
        ((pullAll store patience (start bucket keyPrefix)).run state).value.1).length := by
  -- What is served comes of a walk to the end, and the consumer has fetched its beginning.
  obtain ⟨count, ended, rfl, rfl⟩ := serves
  have given := given_pullAll_start store bucket keyPrefix patience state
  obtain ⟨fetched, all⟩ := made_of_walk ended patience
  by_cases last : ((pullAll store patience (start bucket keyPrefix)).run
      state).value.2.next = .nothing
  · -- All was fetched that the store serves.
    rw [← all last]
    exact given.script
  · -- Only entries were received, and those that are not fetched yet come later.
    obtain ⟨rest, split⟩ := fetched
    rw [← split, itemsOf_append, stream_append (given.within last)]
    exact given.script

/-- A consumer with enough patience never has to give up. -/
theorem Serves.exists_patience (serves : Serves store bucket keyPrefix state items failure) :
    ∃ enough, ∀ patience : List Nat, (∀ fetches ∈ patience, enough ≤ fetches) →
      ((pullAll store patience (start bucket keyPrefix)).run state).value.1 =
        stream items failure patience.length := by
  -- One fetch more than the walk may have pages is enough for every pull.
  have beginning := serves.received_eq
  obtain ⟨count, ended, -, -⟩ := serves
  refine ⟨count + 1, fun patience ample => ?_⟩
  have told := length_results store patience (start bucket keyPrefix) state
  -- A pull that gave up would have fetched more pages than there are.
  have answered : received ((pullAll store patience (start bucket keyPrefix)).run state).value.1 =
      ((pullAll store patience (start bucket keyPrefix)).run state).value.1 := by
    -- All other results count as received.
    refine List.filter_eq_self.mpr fun pulled member => ?_
    cases pulled with
    | exhausted =>
      obtain ⟨index, within, gaveUp⟩ := List.mem_iff_getElem.mp member
      have asked : patience[index]? = some patience[index] :=
        List.getElem?_eq_getElem (told ▸ within)
      obtain ⟨window, inside, length, -⟩ := passed_pullAll store patience _ state asked
        (List.getElem?_eq_some_iff.mpr ⟨within, gaveUp⟩)
      have fetched := (made_of_walk ended patience).1.length_le
      have few := length_walk_le store bucket keyPrefix count .first state
      have many := inside.length_le
      have least := ample _ (List.mem_of_getElem? asked)
      omega
    | entry entry => rfl
    | failed error => rfl
    | ended => rfl
  rw [← told, ← answered]
  exact beginning patience

example (entry other : ObjectEntry) (error : StorageError) :
    Serves ScriptedStore.store "bucket" ""
        { pages := [.ok ⟨[entry], true, some "a"⟩, .ok ⟨[], true, some "b"⟩,
          .ok ⟨[other], true, some "c"⟩, .error error] } [entry, other] (some error) ∧
      Serves ScriptedStore.store "bucket" ""
        { pages := [.ok ⟨[entry, other], true, some "a"⟩, .error error] } [entry, other]
        (some error) :=
  ⟨⟨4, rfl, rfl, rfl⟩, ⟨2, rfl, rfl, rfl⟩⟩

end Serves

end ObjectStorage.Listing
