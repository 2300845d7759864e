import ObjectStorage.Proofs.Listing.Pull

/-! What a consumer receives from a listing, however often it asks: the entries of the pages in
order, then the error if there is one, then the end. No page is fetched before it has to be. -/

namespace ObjectStorage

/-- Whether a pull gave the consumer something. -/
def Pulled.answered : Pulled → Bool
  | .exhausted => false
  | _ => true

/-- The entry that a pull handed out, if it did. -/
def Pulled.found? : Pulled → Option ObjectEntry
  | .entry found => some found
  | _ => none

/-- Whether nothing but the end can follow. -/
def Pulled.final : Pulled → Bool
  | .failed _ => true
  | .ended => true
  | _ => false

namespace Listing

/-- What a consumer received. -/
def received (results : List Pulled) : List Pulled := results.filter Pulled.answered

/-- What a stream yields at a place: an entry, behind the entries the error that there may be, and
from then on the end. -/
def yielded (items : List ObjectEntry) (failure : Option StorageError) (place : Nat) : Pulled :=
  (items.map Pulled.entry ++ failure.toList.map Pulled.failed)[place]?.getD .ended

/-- The beginning of a stream. -/
def stream (items : List ObjectEntry) (failure : Option StorageError) (count : Nat) :
    List Pulled :=
  (List.range count).map (yielded items failure)

section Stream

variable {items : List ObjectEntry} {failure : Option StorageError} {count : Nat}

/-- Entries are yielded at their places. -/
theorem yielded_entry {place : Nat} {entry : ObjectEntry} (found : items[place]? = some entry) :
    yielded items failure place = .entry entry := by
  -- A place of an entry is a place in front of the error.
  obtain ⟨within, rfl⟩ := List.getElem?_eq_some_iff.mp found
  simp [yielded, List.getElem?_append_left, within]

/-- The error is yielded behind the entries. -/
theorem yielded_failed (items : List ObjectEntry) (error : StorageError) :
    yielded items (some error) items.length = .failed error := by
  -- The place of the error is the first behind those of the entries.
  simp [yielded]

/-- The end is yielded behind all else. -/
theorem yielded_ended {place : Nat} (behind : items.length ≤ place)
    (later : failure ≠ none → items.length < place) : yielded items failure place = .ended := by
  -- If there is no error, the end comes right behind the entries.
  cases failure with
  | none => simp [yielded, behind]
  | some error =>
    -- The error takes one place more.
    have further := later nofun
    rw [yielded, List.getElem?_eq_none (by simpa using Nat.succ_le_of_lt further)]
    rfl

/-- A stream yields one thing after another. -/
theorem stream_succ : stream items failure (count + 1) =
    stream items failure count ++ [yielded items failure count] := by
  -- One place more is yielded, the last.
  simp [stream, List.range_succ]

/-- Entries that come later do not change the beginning of a stream, nor does the error. -/
theorem stream_append (within : count ≤ items.length) (more : List ObjectEntry)
    (failure' : Option StorageError) :
    stream (items ++ more) failure' count = stream items failure count := by
  -- All places of the beginning are places of entries.
  refine List.map_congr_left fun place member => ?_
  have inside : place < items.length := by
    have below := List.mem_range.mp member
    omega
  rw [yielded_entry (List.getElem?_eq_getElem inside), yielded_entry
    ((List.getElem?_append_left inside).trans (List.getElem?_eq_getElem inside))]

end Stream

/-- What is known of a listing that a consumer has asked a few times, by the fetches made and the
results given so far. -/
structure Given (made : List Exchange) (results : List Pulled) (listing : Listing) : Prop where
  walked : Walked listing.bucket listing.keyPrefix .first made listing.next
  /-- The consumer received the beginning of the stream. -/
  script : received results =
    stream (itemsOf made) (failureOf made) (received results).length
  /-- The entries that wait are those not received. -/
  pending : listing.pending = (itemsOf made).drop (received results).length
  /-- Unless fetching stopped for good, only entries were received. -/
  within : listing.next ≠ .nothing → (received results).length ≤ (itemsOf made).length
  /-- An error is received as soon as it is met. -/
  failed : failureOf made ≠ none → (itemsOf made).length < (received results).length
  /-- The last page was fetched for an entry that was received already. -/
  prompt : listing.pending ≠ [] ∨ (∃ entry, results.getLast? = some (.entry entry)) →
    (itemsOf made.dropLast).length < (received results).length ∧
      (received results).length ≤ (itemsOf made).length
  ceased : ∀ pulled ∈ results, pulled.final = true → listing.next = .nothing

/-- Nothing is fetched before the consumer asks. -/
theorem given_start (bucket keyPrefix : String) :
    Given [] [] (start bucket keyPrefix) where
  walked := .still _
  script := rfl
  pending := rfl
  within _ := Nat.le_refl _
  failed met := absurd rfl met
  prompt impossible := by simp [start] at impossible
  ceased := by simp

section Step

variable {made added : List Exchange} {results : List Pulled}
  {listing : Listing}

/-- An answer is received behind those before it. -/
theorem received_answered {pulled : Pulled} (answered : pulled.answered = true) :
    received (results ++ [pulled]) = received results ++ [pulled] := by
  -- The filter goes through the results in order.
  simp [received, answered]

/-- One answer more was received. -/
theorem length_received_answered {pulled : Pulled} (answered : pulled.answered = true) :
    (received (results ++ [pulled])).length = (received results).length + 1 := by
  -- Only the new answer is added.
  rw [received_answered answered, List.length_append, List.length_singleton]

/-- What comes next in the stream is received as it is. -/
theorem script_answered {pulled : Pulled} {items : List ObjectEntry} {failure : Option StorageError}
    (script : received results = stream items failure (received results).length)
    (answered : pulled.answered = true)
    (next : yielded items failure (received results).length = pulled) :
    received (results ++ [pulled]) =
      stream items failure (received (results ++ [pulled])).length := by
  -- The stream becomes longer by one place, and the answer is what it yields there.
  rw [length_received_answered answered, stream_succ, ← script, next, received_answered answered]

/-- What is known stays true of the end, which nothing is fetched behind. -/
theorem Given.ceased_append {last : Continuation}
    (given : Given made results listing)
    (walked : Walked listing.bucket listing.keyPrefix listing.next added last) {pulled : Pulled}
    (ends : pulled.final = true → last = .nothing) :
    ∀ result ∈ results ++ [pulled], result.final = true → last = .nothing := by
  intro result member final
  rcases List.mem_append.mp member with earlier | latest
  · -- The end was given before, so nothing was fetched since.
    rw [given.ceased result earlier final] at walked
    exact walked.of_nothing.2
  · -- This pull gave the end, and then nothing follows.
    obtain rfl := List.mem_singleton.mp latest
    exact ends final

/-- A listing whose entries have run out has handed out all that was fetched. -/
theorem Given.length_eq (given : Given made results listing)
    (drained : listing.pending = []) (onward : listing.next ≠ .nothing) :
    (received results).length = (itemsOf made).length := by
  -- No entry is left over, and no more than all can have been received.
  have enough := List.drop_eq_nil_iff.mp (given.pending.symm.trans drained)
  exact Nat.le_antisymm (given.within onward) enough

/-- An entry that waits is received. -/
theorem Given.waiting (given : Given made results listing) {entry : ObjectEntry}
    {rest : List ObjectEntry} (pending : listing.pending = entry :: rest) :
    Given made (results ++ [.entry entry]) { listing with pending := rest } := by
  -- The entry stands in the stream where the consumer has come to.
  have drop := given.pending.symm.trans pending
  have place : (itemsOf made)[(received results).length]? = some entry := by
    rw [← List.head?_drop, drop]
    rfl
  -- Nothing is fetched, so only the number of what was received changes.
  have within := (List.getElem?_eq_some_iff.mp place).1
  have known := given.prompt (.inl (by simp [pending]))
  have length : (received (results ++ [.entry entry])).length = (received results).length + 1 :=
    length_received_answered rfl
  exact {
    walked := given.walked
    script := script_answered given.script rfl (yielded_entry place)
    pending := by
      rw [length, ← List.drop_drop, drop]
      rfl
    within := fun _ => by omega
    failed := fun met => absurd (given.failed met) (by omega)
    prompt := fun _ => by omega
    ceased := given.ceased_append (.still _) nofun }

/-- The first entry of a page that was fetched is received. -/
theorem Given.fetched (given : Given made results listing)
    (drained : listing.pending = []) (onward : listing.next ≠ .nothing) {empty : List Exchange}
    {exchange : Exchange} {entry : ObjectEntry} {rest : List ObjectEntry}
    (passed : ∀ exchange ∈ empty, exchange.Passed) (found : exchange.items = entry :: rest)
    (walked : Walked listing.bucket listing.keyPrefix listing.next (empty ++ [exchange])
      exchange.continuation) :
    Given (made ++ (empty ++ [exchange])) (results ++ [.entry entry])
      { listing with pending := rest, next := exchange.continuation } := by
  -- All that was fetched before is used up, and of what is fetched now only the last page counts.
  have all := given.length_eq drained onward
  have items : itemsOf (made ++ (empty ++ [exchange])) = itemsOf made ++ entry :: rest := by
    simp [nothing_of_passed passed, found]
  have earlier : itemsOf (made ++ (empty ++ [exchange])).dropLast = itemsOf made := by
    rw [← List.append_assoc, List.dropLast_concat, itemsOf_append, (nothing_of_passed passed).1,
      List.append_nil]
  have failure : failureOf (made ++ (empty ++ [exchange])) = none := by
    have fine : exchange.failure? = none := Exchange.failure?_eq_none (.inl (by simp [found]))
    simp [given.walked.failureOf_eq_none onward, nothing_of_passed passed, fine]
  -- The new entry stands right behind those that were received.
  have place : (itemsOf made ++ entry :: rest)[(received results).length]? = some entry := by
    simp [all]
  have length : (received (results ++ [.entry entry])).length = (received results).length + 1 :=
    length_received_answered rfl
  -- No error was met, and what is fetched now does not change the beginning.
  have script := given.script
  rw [← stream_append (by omega) (entry :: rest) none] at script
  exact {
    walked := given.walked.trans walked
    script := by
      rw [items, failure]
      exact script_answered script rfl (yielded_entry place)
    pending := by
      rw [length, items, all]
      simp
    within := fun _ => by
      rw [length, items, List.length_append, List.length_cons]
      omega
    failed := fun met => absurd failure met
    prompt := fun _ => by
      rw [length, earlier, items, List.length_append, List.length_cons]
      omega
    ceased := given.ceased_append walked nofun }

/-- What ends a stream is received when all entries were, and nothing follows it. -/
theorem Given.closing (given : Given made results listing) {pulled : Pulled}
    (walked : Walked listing.bucket listing.keyPrefix listing.next added .nothing)
    (nothing : itemsOf added = [])
    (enough : (itemsOf made).length ≤ (received results).length)
    (script : received results =
      stream (itemsOf made) (failureOf (made ++ added)) (received results).length)
    (answered : pulled.answered = true) (final : pulled.final = true)
    (next : yielded (itemsOf made) (failureOf (made ++ added)) (received results).length =
      pulled) :
    Given (made ++ added) (results ++ [pulled]) listing.close := by
  -- The entries are those of before, and all of them were received.
  have items : itemsOf (made ++ added) = itemsOf made := by simp [nothing]
  have length : (received (results ++ [pulled])).length = (received results).length + 1 :=
    length_received_answered answered
  -- The last result is the end or an error, so nothing is asked of what was prompt.
  have noEntry : ∀ entry, (results ++ [pulled]).getLast? ≠ some (.entry entry) := by
    intro entry latest
    rw [List.getLast?_concat] at latest
    rw [Option.some.inj latest] at final
    exact nomatch final
  exact {
    walked := given.walked.trans walked
    script := by
      rw [items]
      exact script_answered script answered next
    pending := by
      rw [length, items, List.drop_eq_nil_of_le (by omega)]
      rfl
    within := fun further => absurd rfl further
    failed := fun _ => by
      rw [length, items]
      omega
    prompt := fun latest => latest.elim (absurd rfl) fun ⟨entry, last⟩ =>
      absurd last (noEntry entry)
    ceased := given.ceased_append walked fun _ => rfl }

/-- The error that is met is received. -/
theorem Given.failing (given : Given made results listing)
    (drained : listing.pending = []) (onward : listing.next ≠ .nothing) {empty : List Exchange}
    {exchange : Exchange} {error : StorageError} (passed : ∀ exchange ∈ empty, exchange.Passed)
    (failure : exchange.failure? = some error)
    (walked : Walked listing.bucket listing.keyPrefix listing.next (empty ++ [exchange]) .nothing) :
    Given (made ++ (empty ++ [exchange])) (results ++ [.failed error])
      listing.close := by
  -- The failure is the last of what was fetched, and no entry comes with it.
  have all := given.length_eq drained onward
  have nothing : itemsOf (empty ++ [exchange]) = [] := by
    simp [nothing_of_passed passed, Exchange.items_eq_nil failure]
  have met : failureOf (made ++ (empty ++ [exchange])) = some error := by
    simp [given.walked.failureOf_eq_none onward, nothing_of_passed passed, failure]
  -- Only entries were received so far, so the error does not change the beginning.
  have script := given.script
  rw [← stream_append (by omega) [] (some error), List.append_nil] at script
  refine given.closing walked nothing (Nat.le_of_eq all.symm) (by rwa [met]) rfl rfl ?_
  rw [met, all]
  exact yielded_failed _ _

/-- Once all is handed out, the end is received. -/
theorem Given.ended (given : Given made results listing)
    (drained : listing.pending = []) {empty : List Exchange} (nothing : itemsOf empty = [])
    (fine : failureOf empty = none)
    (walked : Walked listing.bucket listing.keyPrefix listing.next empty .nothing) :
    Given (made ++ empty) (results ++ [.ended]) listing.close := by
  -- No entry is left over, so all that were fetched have been received.
  have enough := List.drop_eq_nil_iff.mp (given.pending.symm.trans drained)
  have failure : failureOf (made ++ empty) = failureOf made := by simp [fine]
  -- An error that was met before has been received, so the end is next.
  refine given.closing walked nothing enough ?_ rfl rfl ?_
  · rw [failure]
    exact given.script
  · rw [failure]
    exact yielded_ended enough given.failed

/-- A pull that gave up is not received. -/
theorem Given.exhausted (given : Given made results listing)
    (drained : listing.pending = []) (onward : listing.next ≠ .nothing) {empty : List Exchange}
    (passed : ∀ exchange ∈ empty, exchange.Passed) {next : Continuation}
    (walked : Walked listing.bucket listing.keyPrefix listing.next empty next) :
    Given (made ++ empty) (results ++ [.exhausted]) { listing with next } := by
  -- Neither entries nor an error came, so the stream is as it was.
  have all := given.length_eq drained onward
  have items : itemsOf (made ++ empty) = itemsOf made := by simp [nothing_of_passed passed]
  have failure : failureOf (made ++ empty) = none := by
    simp [given.walked.failureOf_eq_none onward, nothing_of_passed passed]
  -- The consumer learns nothing from a pull that gave up.
  have same : received (results ++ [.exhausted]) = received results := by
    simp [received, Pulled.answered]
  have script := given.script
  rw [given.walked.failureOf_eq_none onward] at script
  exact {
    walked := given.walked.trans walked
    script := by rw [items, failure, same, ← script]
    pending := by rw [items, same, ← given.pending]
    within := fun _ => by rw [items, same, all]
    failed := fun met => absurd failure met
    prompt := fun impossible => by simp [drained] at impossible
    ceased := given.ceased_append walked nofun }

/-- One pull more keeps what is known. -/
theorem Given.step {after : Listing} {fetches : Nat} {pulled : Pulled}
    (given : Given made results listing)
    (pulls : Pulls fetches listing added pulled after)
    (walked : Walked listing.bucket listing.keyPrefix listing.next added after.next) :
    Given (made ++ added) (results ++ [pulled]) after := by
  cases pulls with
  -- There is one lemma for each way that a pull can go.
  | waiting pending =>
    rw [List.append_nil]
    exact given.waiting pending
  | fetched drained onward passed found =>
    exact given.fetched drained onward passed found walked
  | failed drained onward passed failure =>
    exact given.failing drained onward passed failure walked
  | ended drained nothing fine => exact given.ended drained nothing fine walked
  | exhausted drained onward passed further many =>
    exact given.exhausted drained onward passed walked

end Step

/-- The entries that a consumer was handed. -/
def handed (results : List Pulled) : List ObjectEntry := results.filterMap Pulled.found?

/-- At each place a stream yields the entry that stands there, if one does. -/
theorem found?_yielded (items : List ObjectEntry) (failure : Option StorageError) (place : Nat) :
    (yielded items failure place).found? = items[place]? := by
  -- A place is inside the entries or behind them.
  rcases Nat.lt_or_ge place items.length with inside | behind
  · rw [yielded_entry (List.getElem?_eq_getElem inside), List.getElem?_eq_getElem inside]
    rfl
  · -- Behind the entries there are only the error and the end.
    rw [List.getElem?_eq_none behind, yielded, List.getElem?_append_right (by simpa using behind)]
    cases failure with
    | none => rfl
    | some error =>
      cases place - (items.map Pulled.entry).length with
      | zero => rfl
      | succ later => rfl

/-- The beginning of a stream hands out the beginning of its entries. -/
theorem handed_stream (items : List ObjectEntry) (failure : Option StorageError) (count : Nat) :
    handed (stream items failure count) = items.take count := by
  -- The stream is handed out place by place.
  induction count with
  | zero => rfl
  | succ count ih =>
    rw [stream_succ, handed, List.filterMap_append, List.take_add_one, ← ih]
    -- The last place hands out its entry, if there is one.
    have latest : [yielded items failure count].filterMap Pulled.found? = items[count]?.toList := by
      rw [← found?_yielded items failure count]
      cases found : (yielded items failure count).found? <;> simp [found]
    rw [latest, handed]

/-- A consumer was handed a beginning of the entries that were fetched. -/
theorem Given.handed_eq {made : List Exchange} {results : List Pulled} {listing : Listing}
    (given : Given made results listing) :
    handed results = (itemsOf made).take (received results).length := by
  -- Pulls that gave up handed out nothing, and the others gave the beginning of a stream.
  have same : handed (received results) = handed results := by
    rw [handed, handed, received, List.filterMap_filter]
    refine List.filterMap_congr fun pulled _ => ?_
    cases pulled <;> rfl
  -- What was received is the beginning of the stream.
  have script := congrArg handed given.script
  rwa [same, handed_stream] at script

/-- A consumer that came to the end was handed all entries that were fetched. -/
theorem Given.handed_of_ended {made : List Exchange} {results : List Pulled} {listing : Listing}
    (given : Given made results listing) (ended : .ended ∈ results) :
    handed results = itemsOf made := by
  -- The end stands somewhere in the stream that was received.
  have told : Pulled.ended ∈ received results := List.mem_filter.mpr ⟨ended, rfl⟩
  rw [given.script] at told
  obtain ⟨place, within, last⟩ := List.mem_map.mp told
  have before : place < (received results).length := List.mem_range.mp within
  -- The end stands behind all entries, so none was left when it came.
  have behind : (itemsOf made)[place]? = none := by
    rw [← found?_yielded (itemsOf made) (failureOf made) place, last]
    rfl
  have length := List.getElem?_eq_none_iff.mp behind
  rw [given.handed_eq, List.take_of_length_le (by omega)]

end Listing

end ObjectStorage
