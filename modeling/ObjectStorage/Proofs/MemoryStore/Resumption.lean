import ObjectStorage.Proofs.MemoryStore.Fetches

/-! A listing of the store in memory can be taken up behind any text, be it a key of the store or
not: a page begins what is left of the listing there, and the pages that follow one another bring
just that. -/

namespace ObjectStorage

/-- A page begins a list: it has as many of the first entries as it may hold, it is cut short just
if others are left, and only then it has a token, which is its last key. -/
structure ListPage.Begins (page : ListPage) (limit : Nat) (left : List ObjectEntry) : Prop where
  first : page.items <+: left
  length : page.items.length = min limit left.length
  truncated : page.truncated = true ↔ limit < left.length
  marked : page.token.isSome = page.truncated
  last : ∀ token ∈ page.token, page.items.getLast?.map ObjectEntry.key = some token

/-- What is left of a listing behind a token: the entries with greater keys. Without a token, and
behind the empty one, that is all of it. -/
def leftBehind (token : Option String) (listed : List ObjectEntry) : List ObjectEntry :=
  listed.filter fun entry => decide (∀ start ∈ token, start ≠ "" → start < entry.key)

/-- Behind a token that is not empty the entries with greater keys are left. -/
theorem leftBehind_some {token : String} (named : token ≠ "") (listed : List ObjectEntry) :
    leftBehind (some token) listed = listed.filter fun entry => decide (token < entry.key) := by
  -- The condition that the token is not empty is met.
  simp [leftBehind, named]

namespace MemoryStore

/-- The listing of a store: an entry for each object of a bucket whose key begins with a prefix,
which tells the size of the object's bytes, in the order of the keys. -/
structure IsListing (objects : MemoryStore) (bucket keyPrefix : String)
    (listed : List ObjectEntry) : Prop where
  ascending : Ascending listed
  mem_iff : ∀ entry, entry ∈ listed ↔
    keyPrefix.toList <+: entry.key.toList ∧
      ∃ data, objects.get? ⟨bucket, entry.key⟩ = some data ∧ entry = .ofSize entry.key data.size
  /-- The size that an entry tells is the number of bytes that are stored under its key. -/
  sized : ∀ entry ∈ listed, ∃ data, objects.get? ⟨bucket, entry.key⟩ = some data ∧
    entry.sizeBytes = some (data.size : Int)

section Pages

variable (objects : MemoryStore) (bucket keyPrefix : String) (token : Option String)

/-- What follows the empty token is the listing of a store. -/
theorem isListing_matching :
    objects.IsListing bucket keyPrefix (objects.matching bucket keyPrefix "") where
  ascending := objects.ascending_matching bucket keyPrefix ""
  mem_iff := objects.entry_mem_matching_iff bucket keyPrefix
  sized := by
    -- Every member is made of the bytes under its key, and nothing but their number is its size.
    intro entry member
    obtain ⟨-, data, stored, made⟩ :=
      (objects.entry_mem_matching_iff bucket keyPrefix entry).mp member
    exact ⟨data, stored, by rw [made]; rfl⟩

/-- What follows a token is what is left of the listing behind it. -/
theorem matching_eq_leftBehind :
    objects.matching bucket keyPrefix (token.getD "") =
      leftBehind token (objects.matching bucket keyPrefix "") := by
  -- Both choose entries of the same listing, so only the two conditions are compared.
  rw [matching_eq_filter, leftBehind]
  refine List.filter_congr fun entry _ => ?_
  cases token with
  | none =>
    -- Everything follows the absent token.
    simp [follows]
  | some token =>
    by_cases named : token = ""
    · simp [follows, named]
    · rw [Bool.eq_iff_iff, Option.getD_some, follows_iff named]
      simp [named]

/-- A page begins what follows its token. -/
theorem page_begins (positive : 0 < objects.pageSize) :
    (objects.page bucket keyPrefix token).Begins objects.pageSize
      (objects.matching bucket keyPrefix (token.getD "")) := by
  -- Either the page is full and something is left, or it has everything.
  rcases Nat.lt_or_ge objects.pageSize
    (objects.matching bucket keyPrefix (token.getD "")).length with many | few
  · -- Entries are left, so the page is full, and its last entry is the token of the next.
    obtain ⟨before, last, rest, found, full, cut⟩ := page_of_many positive many
    rw [cut]
    refine ⟨?_, ?_, ?_, rfl, ?_⟩
    · rw [found]
      exact ⟨rest, (List.append_cons before last rest).symm⟩
    · rw [Nat.min_eq_left (Nat.le_of_lt many), ← full]
      exact List.length_append
    · exact ⟨fun _ => many, fun _ => rfl⟩
    · -- The token is the key of the last entry, which stands at the end of the page.
      intro key marked
      rw [List.getLast?_concat]
      exact marked
  · -- Nothing is left, so the page has all.
    rw [page_of_few few]
    refine ⟨List.prefix_rfl, (Nat.min_eq_right few).symm, ?_, rfl, nofun⟩
    exact ⟨nofun, fun many => absurd many (Nat.not_lt.mpr few)⟩

end Pages

section Walk

variable {objects : MemoryStore} {bucket keyPrefix : String} {σ : Type} (machine : Machine σ)
  (outside : σ)

/-- A walk that begins behind a token that is not empty comes to its end after as many pages as the
entries behind the token fill, and brings just these. -/
theorem walk_behind (positive : 0 < objects.pageSize) {token : String} (named : token ≠ "")
    {count : Nat}
    (enough : pagesFor objects.pageSize (objects.matching bucket keyPrefix token).length ≤ count) :
    let outcome := (Listing.walk (store machine) bucket keyPrefix count (.after token)).run
      (objects, outside)
    outcome.value = .nothing ∧
      outcome.events.length =
        pagesFor objects.pageSize (objects.matching bucket keyPrefix token).length ∧
      itemsOf outcome.events = objects.matching bucket keyPrefix token := by
  -- A token that is not empty never makes the listing start again.
  intro outcome
  have asks : (Continuation.after token).request = some (some token) := rfl
  obtain ⟨ended, length⟩ := walk_ends_from machine outside positive _ asks
    (fun empty => absurd empty named) rfl
  obtain ⟨items, -⟩ := walk_of_ended machine outside positive _ asks ended
  -- Behind the end nothing more is fetched.
  have same : outcome = _ := Listing.run_walk_of_le (store machine) bucket keyPrefix ended enough
  rw [same]
  exact ⟨ended, length, items⟩

end Walk

/-- A listing can be taken up behind any token. Each page of it begins what is left of the listing
there, and is fetched without a change; and the pages that follow one another behind a token that is
not empty come to an end, and bring just the entries of the listing with greater keys. -/
theorem listing_resumes_anywhere {σ : Type} (machine : Machine σ) (outside : σ)
    (contents : Std.TreeMap ObjectRef ByteArray ObjectRef.order) (pageSize : Nat)
    (bucket keyPrefix : String) :
    let objects : MemoryStore := { empty pageSize with objects := contents }
    let limit := max pageSize 1
    let listed := objects.matching bucket keyPrefix ""
    objects.IsListing bucket keyPrefix listed ∧
      (∀ token : Option String, ∃ page : ListPage,
        (store machine).answer (.listPage bucket keyPrefix token) (objects, outside) =
          (.ok page, objects, outside) ∧
        page.Begins limit (leftBehind token listed)) ∧
      ∀ token : String, token ≠ "" →
        let left := listed.filter fun entry => decide (token < entry.key)
        ∀ count, pagesFor limit left.length ≤ count →
          let outcome := (Listing.walk (store machine) bucket keyPrefix count (.after token)).run
            (objects, outside)
          outcome.value = .nothing ∧ outcome.events.length = pagesFor limit left.length ∧
            itemsOf outcome.events = left := by
  intro objects limit listed
  -- A page holds one key at least, whatever size was chosen.
  have positive : 0 < objects.pageSize := Nat.lt_of_lt_of_le Nat.one_pos (Nat.le_max_right _ _)
  refine ⟨objects.isListing_matching bucket keyPrefix, fun token => ?_, fun token named => ?_⟩
  · -- The page is fetched as the store has it.
    refine ⟨_, answer_listPage machine outside token, ?_⟩
    rw [← matching_eq_leftBehind]
    exact objects.page_begins bucket keyPrefix token positive
  · -- What is left is what the store lists behind the token.
    intro left count enough
    have behind : left = objects.matching bucket keyPrefix token :=
      (leftBehind_some named listed).symm.trans
        (objects.matching_eq_leftBehind bucket keyPrefix (some token)).symm
    rw [behind] at enough ⊢
    exact walk_behind machine outside positive named enough

/-- Behind a key that is not there a listing comes to its end, although from the start on it would
bring the empty key for ever. -/
theorem listing_resumes_behind_absent_key :
    let objects : MemoryStore := { empty 0 with objects := roomy.objects }
    let outcome := (Listing.walk (store bare) "bucket" "" 5 (.after "0")).run (objects, ())
    objects.Restarts "bucket" "" ∧ objects.get? ⟨"bucket", "0"⟩ = none ∧ "0" ≠ "" ∧
      outcome.value = .nothing ∧ outcome.events.length = 2 ∧
      (itemsOf outcome.events).map ObjectEntry.key = ["a", "b"] := by
  -- There is no object with this key, but it serves as a token all the same.
  intro objects outcome
  have restarts : objects.Restarts "bucket" "" := ⟨rfl, rfl, rfl, "a", by decide, rfl⟩
  have named : "0" ≠ "" := by decide
  obtain ⟨-, -, walks⟩ := listing_resumes_anywhere bare () roomy.objects 0 "bucket" ""
  obtain ⟨ended, length, items⟩ := walks "0" named 5 (by decide)
  exact ⟨restarts, rfl, named, ended, length, congrArg (List.map ObjectEntry.key) items⟩

end MemoryStore

end ObjectStorage
