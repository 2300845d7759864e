import ObjectStorage.Proofs.Listing.Walk

/-! A pull from a listing hands out an entry that waits, or fetches pages up to the first that has
entries. -/

namespace ObjectStorage

/-- A page without entries that another page follows. -/
def Exchange.Passed (exchange : Exchange) : Prop :=
  exchange.items = [] ∧ exchange.continuation ≠ .nothing

/-- Only a fetch that brought a page is followed by another. -/
theorem Exchange.failure?_eq_none {exchange : Exchange}
    (onward : exchange.items ≠ [] ∨ exchange.continuation ≠ .nothing) :
    exchange.failure? = none := by
  -- The reply to a call is a failure or a page.
  rcases exchange with ⟨call, error | reply⟩
  · -- A failure has neither entries nor a continuation.
    simp [items, continuation, page?] at onward
  · rfl

/-- A fetch that failed brought no entries. -/
theorem Exchange.items_eq_nil {exchange : Exchange} {error : StorageError}
    (failure : exchange.failure? = some error) : exchange.items = [] :=
  -- If it had brought some, it would not have failed.
  Decidable.byContradiction fun some =>
    nomatch (Exchange.failure?_eq_none (.inl some)).symm.trans failure

/-- Pages that are passed over bring no entries and no error. -/
theorem nothing_of_passed {empty : List Exchange} (passed : ∀ exchange ∈ empty, exchange.Passed) :
    itemsOf empty = [] ∧ failureOf empty = none := by
  -- Each of them is empty, and each is followed by another.
  constructor
  · exact List.flatMap_eq_nil_iff.mpr fun exchange member => (passed exchange member).1
  · exact List.findSome?_eq_none_iff.mpr fun exchange member =>
      Exchange.failure?_eq_none (.inr (passed exchange member).2)

namespace Listing

/-- What one pull does: an entry that waits is handed out without a fetch, and otherwise pages are
fetched up to the first that has entries. -/
inductive Pulls (fetches : Nat) (listing : Listing) : List Exchange → Pulled → Listing → Prop
  | waiting {entry : ObjectEntry} {rest : List ObjectEntry}
    (pending : listing.pending = entry :: rest) :
    Pulls fetches listing [] (.entry entry) { listing with pending := rest }
  | fetched {empty : List Exchange} {exchange : Exchange} {entry : ObjectEntry}
    {rest : List ObjectEntry} (drained : listing.pending = []) (onward : listing.next ≠ .nothing)
    (passed : ∀ exchange ∈ empty, exchange.Passed) (found : exchange.items = entry :: rest) :
    Pulls fetches listing (empty ++ [exchange]) (.entry entry)
      { listing with pending := rest, next := exchange.continuation }
  | failed {empty : List Exchange} {exchange : Exchange} {error : StorageError}
    (drained : listing.pending = []) (onward : listing.next ≠ .nothing)
    (passed : ∀ exchange ∈ empty, exchange.Passed) (failure : exchange.failure? = some error) :
    Pulls fetches listing (empty ++ [exchange]) (.failed error) listing.close
  | ended {empty : List Exchange} (drained : listing.pending = []) (nothing : itemsOf empty = [])
    (fine : failureOf empty = none) :
    Pulls fetches listing empty .ended listing.close
  | exhausted {empty : List Exchange} {next : Continuation} (drained : listing.pending = [])
    (onward : listing.next ≠ .nothing) (passed : ∀ exchange ∈ empty, exchange.Passed)
    (further : next ≠ .nothing) (many : empty.length = fetches) :
    Pulls fetches listing empty .exhausted { listing with next }

/-- A pull that fetches a page goes on with it. -/
theorem Pulls.after_page {fetches : Nat} {listing after : Listing} {exchange : Exchange}
    {page : ListPage} {made : List Exchange} {pulled : Pulled}
    (brought : exchange.page? = some page) (drained : listing.pending = [])
    (onward : listing.next ≠ .nothing)
    (pulls : Pulls fetches (listing.receive page) made pulled after) :
    Pulls (fetches + 1) listing (exchange :: made) pulled after := by
  -- The cases are the ways in which the pull goes on behind the page.
  have items : exchange.items = page.items := by simp [Exchange.items, brought]
  have continuation : exchange.continuation = page.continuation := by
    simp [Exchange.continuation, brought]
  -- Unless the page has entries or is the last, it is passed over.
  have before : (listing.receive page).pending = [] → page.continuation ≠ .nothing →
      ∀ {empty : List Exchange}, (∀ exchange ∈ empty, exchange.Passed) →
      ∀ passed ∈ exchange :: empty, passed.Passed :=
    fun empty further _ rest => List.forall_mem_cons.mpr
      ⟨⟨items.trans empty, continuation ▸ further⟩, rest⟩
  cases pulls with
  | @waiting entry rest pending =>
    -- The page has entries, so it is the last that is fetched.
    have same : { listing.receive page with pending := rest } =
      { listing with pending := rest, next := exchange.continuation } := by rw [continuation]; rfl
    rw [same]
    exact .fetched drained onward (List.forall_mem_nil _) (items.trans pending)
  -- Here the page had no entries, so it is one more of those that are passed over.
  | fetched empty further rest found =>
    exact .fetched drained onward (before empty further rest) found
  | failed empty further rest failure =>
    exact .failed drained onward (before empty further rest) failure
  | ended empty nothing fine =>
    -- The page brought nothing either, and it is no failure.
    have failure : exchange.failure? = none := by
      rcases exchange with ⟨call, error | reply⟩
      · simp [Exchange.page?] at brought
      · rfl
    refine .ended drained ?_ ?_
    · rw [itemsOf_cons, items, show page.items = [] from empty, nothing, List.append_nil]
    · rw [failureOf_cons, failure, fine]
      rfl
  | @exhausted _ next empty further rest last many =>
    -- One more page was passed over, and one fetch more was allowed.
    have same : { listing.receive page with next } = { listing with next } := by
      simp only [receive, drained, show page.items = [] from empty]
    rw [same]
    exact .exhausted drained onward (before empty further rest) last
      (by rw [List.length_cons, many])

section Pull

variable {σ : Type} (store : Store σ) (fetches : Nat) {listing : Listing}

/-- An entry that waits is handed out. -/
theorem pull_waiting {entry : ObjectEntry} {rest : List ObjectEntry}
    (pending : listing.pending = entry :: rest) :
    listing.pull store fetches = pure (.entry entry, { listing with pending := rest }) := by
  -- Whatever may be fetched, waiting entries are looked at first.
  cases fetches <;> simp only [pull, pending]

/-- A listing that has nothing to ask for ends when no entry waits. -/
theorem pull_ended (drained : listing.pending = []) (last : listing.next = .nothing) :
    listing.pull store fetches = pure (.ended, listing) := by
  -- Without a request no fetch is made, however many are allowed.
  cases fetches <;> simp only [pull, drained, last, Continuation.request]

/-- A listing may not fetch without end. -/
theorem pull_exhausted (drained : listing.pending = []) {token : Option String}
    (asked : listing.next.request = some token) :
    listing.pull store 0 = pure (.exhausted, listing) := by
  -- A token to ask with is there, but no fetch to use it.
  simp only [pull, drained, asked]

/-- A listing that has an entry or the end to give does not fetch, whatever it may. -/
theorem pull_ready (other : Nat) (ready : listing.pending ≠ [] ∨ listing.next = .nothing) :
    listing.pull store fetches = listing.pull store other := by
  -- Of the two reasons, it depends on the waiting entries which one applies.
  cases pending : listing.pending with
  | cons entry rest => rw [pull_waiting store fetches pending, pull_waiting store other pending]
  | nil =>
    have last : listing.next = .nothing := by simpa [pending] using ready
    rw [pull_ended store fetches pending last, pull_ended store other pending last]

/-- A page that is fetched is looked at next. -/
theorem run_pull_page (drained : listing.pending = []) {token : Option String}
    (asked : listing.next.request = some token) {state after : σ} {page : ListPage}
    (answered : store.answer (.listPage listing.bucket listing.keyPrefix token) state =
      (.ok page, after)) :
    (listing.pull store (fetches + 1)).run state =
      (((listing.receive page).pull store fetches).run after).after
        [⟨.listPage listing.bucket listing.keyPrefix token, .ok page⟩] := by
  -- Nothing waits and the answer is known, so the pull goes on with the page.
  rw [pull]
  simp only [drained, asked]
  exact store.run_ask_bind Exchange.mk answered _

/-- A fetch that fails ends a listing. -/
theorem run_pull_failed (drained : listing.pending = []) {token : Option String}
    (asked : listing.next.request = some token) {state after : σ} {error : StorageError}
    (answered : store.answer (.listPage listing.bucket listing.keyPrefix token) state =
      (.error error, after)) :
    (listing.pull store (fetches + 1)).run state =
      ⟨(.failed error, listing.close), after,
        [⟨.listPage listing.bucket listing.keyPrefix token, .error error⟩]⟩ := by
  -- Nothing waits and the answer is known, so the pull ends with the error.
  rw [pull]
  simp only [drained, asked]
  exact store.run_ask_bind Exchange.mk answered _

end Pull

/-- A listing that has neither an entry nor an end to give has a token to ask with. -/
theorem asks_of_unready {listing : Listing}
    (unready : ¬ (listing.pending ≠ [] ∨ listing.next = .nothing)) :
    listing.pending = [] ∧ listing.next ≠ .nothing ∧
      ∃ token, listing.next.request = some token := by
  -- Every continuation but the last makes a request.
  obtain ⟨drained, onward⟩ := not_or.mp unready
  refine ⟨Decidable.not_not.mp drained, onward, ?_⟩
  cases next : listing.next with
  | first => exact ⟨none, rfl⟩
  | after token => exact ⟨some token, rfl⟩
  | nothing => exact absurd next onward

/-- What a pull from a listing comes to: it hands out an entry or tells why there is none, and it
fetches as a walk does. -/
structure Pulling {σ : Type} (store : Store σ) (fetches : Nat) (listing : Listing) (state : σ)
    (outcome : Outcome Exchange σ (Pulled × Listing)) : Prop where
  pulls : Pulls fetches listing outcome.events outcome.value.1 outcome.value.2
  walks : ∃ count, (walk store listing.bucket listing.keyPrefix count listing.next).run state =
    ⟨outcome.value.2.next, outcome.state, outcome.events⟩

/-- A pull that has no need to fetch does not. -/
theorem pulling_at_once {σ : Type} (store : Store σ) (fetches : Nat) {listing : Listing}
    (ready : listing.pending ≠ [] ∨ listing.next = .nothing) (state : σ) :
    Pulling store fetches listing state ((listing.pull store fetches).run state) := by
  -- The two cases are an entry that waits and a listing at its end.
  cases pending : listing.pending with
  | cons entry rest =>
    rw [pull_waiting store fetches pending]
    exact ⟨.waiting pending, 0, rfl⟩
  | nil =>
    -- No entry waits, so the listing has ended, and it is closed as it is.
    have last : listing.next = .nothing := by simpa [pending] using ready
    rw [pull_ended store fetches pending last]
    have ended : Pulls fetches listing [] .ended listing.close := .ended pending rfl rfl
    have closed : listing.close = listing := by rw [close, ← pending, ← last]
    rw [closed] at ended
    exact ⟨ended, 0, rfl⟩

/-- Every pull comes to this. -/
theorem pulling_pull {σ : Type} (store : Store σ) (fetches : Nat) (listing : Listing) (state : σ) :
    Pulling store fetches listing state ((listing.pull store fetches).run state) := by
  -- Only a page without entries leads to another fetch, so the induction is on the fetches left.
  induction fetches generalizing listing state with
  | zero =>
    by_cases ready : listing.pending ≠ [] ∨ listing.next = .nothing
    · exact pulling_at_once store 0 ready state
    · -- No fetch is left for the page that is needed.
      obtain ⟨drained, onward, token, asked⟩ := asks_of_unready ready
      rw [pull_exhausted store drained asked]
      exact ⟨.exhausted drained onward (List.forall_mem_nil _) onward rfl, 0, rfl⟩
  | succ fetches ih =>
    by_cases ready : listing.pending ≠ [] ∨ listing.next = .nothing
    · exact pulling_at_once store _ ready state
    · -- A page is needed, and the store decides whether it comes.
      obtain ⟨drained, onward, token, asked⟩ := asks_of_unready ready
      cases answered : store.answer (.listPage listing.bucket listing.keyPrefix token) state with
      | mk answer after =>
        cases answer with
        | error error =>
          -- One fetch was made, and its error is told of.
          rw [run_pull_failed store fetches drained asked answered]
          refine ⟨?_, 1, run_walk_failed _ _ _ asked answered 0⟩
          exact Pulls.failed drained onward (List.forall_mem_nil _) rfl
        | ok page =>
          -- The pull goes on behind the page, and so does the walk.
          rw [run_pull_page store fetches drained asked answered]
          have further := ih (listing.receive page) after
          obtain ⟨count, walks⟩ := further.walks
          refine ⟨further.pulls.after_page rfl drained onward, count + 1, ?_⟩
          refine (run_walk_page _ _ _ asked answered count).trans ?_
          exact congrArg (Outcome.after _) walks

/-- A pull that did not give up does the same when it may fetch more. -/
theorem run_pull_of_le {σ : Type} (store : Store σ) {fewer more : Nat} (allowed : fewer ≤ more)
    (listing : Listing) (state : σ)
    (answered : ((listing.pull store fewer).run state).value.1 ≠ .exhausted) :
    (listing.pull store more).run state = (listing.pull store fewer).run state := by
  -- Both fetch the same pages, so the induction is on the fetches that the first may make.
  induction fewer generalizing more listing state with
  | zero =>
    by_cases ready : listing.pending ≠ [] ∨ listing.next = .nothing
    · rw [pull_ready store more 0 ready]
    · -- Without a fetch the first pull would have given up.
      obtain ⟨drained, -, token, asked⟩ := asks_of_unready ready
      rw [pull_exhausted store drained asked] at answered
      exact absurd rfl answered
  | succ fewer ih =>
    by_cases ready : listing.pending ≠ [] ∨ listing.next = .nothing
    · rw [pull_ready store more (fewer + 1) ready]
    · obtain ⟨drained, -, token, asked⟩ := asks_of_unready ready
      -- Both make this fetch, and the store gives them the same answer.
      obtain ⟨more, rfl⟩ := Nat.exists_eq_add_of_le' (show 1 ≤ more by omega)
      cases brought : store.answer (.listPage listing.bucket listing.keyPrefix token) state with
      | mk answer after =>
        cases answer with
        | error error =>
          rw [run_pull_failed store more drained asked brought,
            run_pull_failed store fewer drained asked brought]
        | ok page =>
          rw [run_pull_page store fewer drained asked brought] at answered ⊢
          rw [run_pull_page store more drained asked brought,
            ih (Nat.le_of_succ_le_succ allowed) (listing.receive page) after answered]

/-- A pull keeps to the bucket and the prefix of its listing. -/
theorem Pulls.about {fetches : Nat} {listing after : Listing} {made : List Exchange}
    {pulled : Pulled} (pulls : Pulls fetches listing made pulled after) :
    after.bucket = listing.bucket ∧ after.keyPrefix = listing.keyPrefix := by
  -- In each case only the waiting entries and the continuation change.
  cases pulls <;> exact ⟨rfl, rfl⟩

/-- The entry that a pull hands out is the first of those that waited and those that were fetched,
and the others wait. -/
theorem Pulls.of_entry {fetches : Nat} {listing after : Listing} {made : List Exchange}
    {entry : ObjectEntry} (pulls : Pulls fetches listing made (.entry entry) after) :
    listing.pending ++ itemsOf made = entry :: after.pending ∧ failureOf made = none := by
  -- The entry waited before the pull, or it is the first of the last page.
  cases pulls with
  | waiting pending => exact ⟨by simp [pending], rfl⟩
  | fetched drained onward passed found =>
    -- The pages that were passed over have no part in it.
    have fine := Exchange.failure?_eq_none (.inl (by rw [found]; exact List.cons_ne_nil _ _))
    exact ⟨by simp [drained, nothing_of_passed passed, found],
      by simp [nothing_of_passed passed, fine]⟩

/-- A fetch that fails is told of when nothing else is left, and nothing follows. -/
theorem Pulls.of_failed {fetches : Nat} {listing after : Listing} {made : List Exchange}
    {error : StorageError} (pulls : Pulls fetches listing made (.failed error) after) :
    listing.pending ++ itemsOf made = [] ∧ failureOf made = some error ∧
      after.next = .nothing := by
  -- The pages before the failure were passed over, and the failure has no entries.
  cases pulls with
  | failed drained onward passed failure =>
    have nothing := Exchange.items_eq_nil failure
    exact ⟨by simp [drained, nothing_of_passed passed, nothing],
      by simp [nothing_of_passed passed, failure], rfl⟩

/-- The end is told of when nothing is left, and nothing follows. -/
theorem Pulls.of_ended {fetches : Nat} {listing after : Listing} {made : List Exchange}
    (pulls : Pulls fetches listing made .ended after) :
    listing.pending ++ itemsOf made = [] ∧ failureOf made = none ∧ after.next = .nothing := by
  -- Such a pull found neither an entry nor an error.
  cases pulls with
  | ended drained nothing fine => exact ⟨by simp [drained, nothing], fine, rfl⟩

/-- A pull that gave up fetched as many pages as it might, and passed all of them over. -/
theorem Pulls.passed {fetches : Nat} {listing after : Listing} {made : List Exchange}
    (pulls : Pulls fetches listing made .exhausted after) :
    made.length = fetches ∧ ∀ exchange ∈ made, exchange.Passed := by
  -- Only one way of pulling gives up, and it says both.
  cases pulls with
  | exhausted drained onward passed further many => exact ⟨many, passed⟩

end Listing

end ObjectStorage
