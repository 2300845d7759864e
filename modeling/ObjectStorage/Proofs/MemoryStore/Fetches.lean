import ObjectStorage.Proofs.Listing.Consumer
import ObjectStorage.Proofs.MemoryStore.Pages
import ObjectStorage.Proofs.Upload.Layout

/-! How many pages a listing of the store in memory fetches: as many as its keys fill, and no page
brings a key again. Only where the token of a page is the empty key does the listing start again,
and then it does so for ever. -/

namespace ObjectStorage.MemoryStore

open Number (ceilDiv ceilDiv_le_iff lt_ceilDiv_iff)

/-- How many pages so many entries take: one at least, which may be empty. -/
def pagesFor (pageSize entries : Nat) : Nat := max 1 (ceilDiv entries pageSize)

theorem pagesFor_of_few {pageSize entries : Nat} (positive : 0 < pageSize)
    (few : entries ≤ pageSize) : pagesFor pageSize entries = 1 := by
  -- One page is enough, and at least one is fetched.
  have one : ceilDiv entries pageSize ≤ 1 := by
    rw [ceilDiv_le_iff positive]
    omega
  exact Nat.max_eq_left one

theorem pagesFor_of_many {pageSize entries : Nat} (positive : 0 < pageSize)
    (many : pageSize < entries) :
    pagesFor pageSize entries = pagesFor pageSize (entries - pageSize) + 1 := by
  -- Something is left behind a full page, so the bound of one page plays no part.
  have left : 0 < ceilDiv (entries - pageSize) pageSize := by
    rw [lt_ceilDiv_iff positive]
    omega
  -- A full page takes away one page size from what is divided.
  have step : ceilDiv entries pageSize = ceilDiv (entries - pageSize) pageSize + 1 := by
    have shifted : entries + pageSize - 1 = (entries - pageSize + pageSize - 1) + pageSize := by
      omega
    rw [ceilDiv, ceilDiv, shifted, Nat.add_div_right _ positive]
  rw [pagesFor, pagesFor, step]
  omega

/-- A listing that starts again: a page holds one key, the empty key is listed as the first, and
another is left behind it. -/
structure Restarts (objects : MemoryStore) (bucket keyPrefix : String) : Prop where
  single : objects.pageSize = 1
  unrestricted : keyPrefix = ""
  empty : (objects.get? ⟨bucket, ""⟩).isSome = true
  other : ∃ key, key ≠ "" ∧ (objects.get? ⟨bucket, key⟩).isSome = true

variable {objects : MemoryStore} {bucket keyPrefix : String}

/-- The token of a page is the empty key only if the listing starts again. -/
theorem Restarts.of_last {token : String} {before rest : List ObjectEntry} {last : ObjectEntry}
    (found : objects.matching bucket keyPrefix token = before ++ last :: rest)
    (full : before.length + 1 = objects.pageSize) (left : rest ≠ []) (empty : last.key = "") :
    objects.Restarts bucket keyPrefix := by
  -- The empty key is the least of all keys, so nothing stands in front of it.
  have ascending := objects.ascending_matching bucket keyPrefix token
  -- All that is listed is held and begins with the prefix.
  have listed : ∀ entry ∈ before ++ last :: rest,
      (objects.get? ⟨bucket, entry.key⟩).isSome = true ∧ keyPrefix.toList <+: entry.key.toList := by
    intro entry member
    rw [← found, matching_eq_filter] at member
    have all : entry.key ∈ (objects.matching bucket keyPrefix "").map ObjectEntry.key :=
      List.mem_map_of_mem (List.mem_filter.mp member).1
    exact (objects.mem_matching_iff bucket keyPrefix entry.key).mp all
  rw [found] at ascending
  obtain ⟨-, behind, across⟩ := List.pairwise_append.mp ascending
  obtain ⟨here, begins⟩ := listed last (by simp)
  rw [empty] at here begins
  refine ⟨?_, ?_, here, ?_⟩
  · -- Nothing comes before the empty key, so it is alone on its page.
    cases before with
    | nil => exact full.symm
    | cons first others =>
      have less := across first List.mem_cons_self last List.mem_cons_self
      rw [empty] at less
      exact absurd less (not_lt_empty _)
  · -- The empty key begins with no prefix but the empty one.
    have nothing : keyPrefix.toList = [] := List.prefix_nil.mp begins
    rw [← String.ofList_toList (s := keyPrefix), nothing]
  · -- The first key behind the page is another, since the keys ascend.
    obtain ⟨next, others, rfl⟩ := List.exists_cons_of_ne_nil left
    have less := List.rel_of_pairwise_cons behind (List.mem_cons_self (l := others))
    refine ⟨next.key, ?_, (listed next (by simp)).1⟩
    intro same
    rw [same] at less
    exact not_lt_empty _ less

/-- Where a listing starts again, its first page has the empty key and asks for itself. -/
theorem Restarts.page_eq (restarts : objects.Restarts bucket keyPrefix) {token : Option String}
    (start : token.getD "" = "") :
    ∃ entry : ObjectEntry, entry.key = "" ∧
      objects.page bucket keyPrefix token = ⟨[entry], true, some ""⟩ := by
  -- No prefix was asked for, so every key begins with it.
  obtain ⟨key, named, there⟩ := restarts.other
  have single := restarts.single
  have begins : ∀ key : String, keyPrefix.toList <+: key.toList := by
    intro key
    rw [restarts.unrestricted]
    exact List.nil_prefix
  have first := (objects.mem_matching_iff bucket keyPrefix "").mpr ⟨restarts.empty, begins ""⟩
  have second := (objects.mem_matching_iff bucket keyPrefix key).mpr ⟨there, begins key⟩
  -- Two keys are listed, and so one page does not hold them.
  have many : objects.pageSize < (objects.matching bucket keyPrefix (token.getD "")).length := by
    rw [start, single, ← List.length_map ObjectEntry.key]
    match (objects.matching bucket keyPrefix "").map ObjectEntry.key, first, second with
    | [only], first, second =>
      have same := (List.mem_singleton.mp second).trans (List.mem_singleton.mp first).symm
      exact absurd same named
    | _ :: _ :: others, _, _ => simp
  obtain ⟨before, last, rest, found, full, cut⟩ := page_of_many (by omega) many
  have none : before = [] := List.length_eq_zero_iff.mp (by omega)
  subst none
  -- The empty key is the least of those that are listed.
  have least : last.key = "" := by
    rw [start] at found
    have ascending := objects.ascending_matching bucket keyPrefix ""
    rw [found] at first ascending
    rcases List.mem_cons.mp first with same | later
    · exact same.symm
    · obtain ⟨entry, member, empty⟩ := List.mem_map.mp later
      have less := List.rel_of_pairwise_cons ascending member
      rw [empty] at less
      exact absurd less (not_lt_empty _)
  exact ⟨last, least, by rw [cut, least]; rfl⟩

section Walk

variable {σ : Type} (machine : Machine σ) (outside : σ)

/-- A walk ends with the page that takes up the last key, unless it begins with the first page of a
listing that starts again. -/
theorem walk_ends_from (positive : 0 < objects.pageSize) (count : Nat) {next : Continuation}
    {token : Option String} (asked : next.request = some token)
    (once : token.getD "" = "" → ¬ objects.Restarts bucket keyPrefix)
    (exact : pagesFor objects.pageSize
      (objects.matching bucket keyPrefix (token.getD "")).length = count) :
    let outcome := (Listing.walk (store machine) bucket keyPrefix count next).run (objects, outside)
    outcome.value = .nothing ∧ outcome.events.length = count := by
  -- A page that is cut short takes up one of the pages, so the induction is on their number.
  induction count generalizing next token with
  | zero =>
    -- One page at least is always counted.
    have least : 1 ≤ pagesFor objects.pageSize
        (objects.matching bucket keyPrefix (token.getD "")).length := Nat.le_max_left _ _
    omega
  | succ count ih =>
    rcases Nat.lt_or_ge objects.pageSize
      (objects.matching bucket keyPrefix (token.getD "")).length with many | few
    · obtain ⟨before, last, rest, found, full, cut⟩ := page_of_many positive many
      have lengths := congrArg List.length found
      rw [List.length_append, List.length_cons] at lengths
      have left : rest ≠ [] := by
        intro none
        rw [none, List.length_nil] at lengths
        omega
      -- Behind a token that is not empty no empty key is found.
      have named : last.key ≠ "" := by
        intro empty
        have start : token.getD "" = "" :=
          objects.token_eq_empty bucket keyPrefix (by simp [found]) empty
        exact once start (.of_last found full left empty)
      have asks : (Continuation.after last.key).request = some (some last.key) := rfl
      -- Behind the page all but its own keys are left.
      have fewer : pagesFor objects.pageSize
          (objects.matching bucket keyPrefix ((some last.key).getD "")).length = count := by
        rw [Option.getD_some, objects.matching_behind bucket keyPrefix found named]
        have pages := pagesFor_of_many positive many
        rw [exact, show (objects.matching bucket keyPrefix (token.getD "")).length
          - objects.pageSize = rest.length by omega] at pages
        omega
      obtain ⟨ended, length⟩ := ih asks (fun empty => absurd empty named) fewer
      rw [run_walk_cut machine outside asked count cut]
      exact ⟨ended, congrArg (· + 1) length⟩
    · -- What is left fits on this page, so no other is counted.
      have one := pagesFor_of_few positive few
      obtain rfl : count = 0 := by omega
      rw [run_walk_last machine outside asked 0 few]
      exact ⟨rfl, rfl⟩

/-- A walk that does not start again ends with the page that takes up the last key. -/
theorem walk_ends (positive : 0 < objects.pageSize) (once : ¬ objects.Restarts bucket keyPrefix)
    (count : Nat) {next : Continuation} {token : Option String} (asked : next.request = some token)
    (exact : pagesFor objects.pageSize
      (objects.matching bucket keyPrefix (token.getD "")).length = count) :
    let outcome := (Listing.walk (store machine) bucket keyPrefix count next).run (objects, outside)
    outcome.value = .nothing ∧ outcome.events.length = count :=
  walk_ends_from machine outside positive count asked (fun _ => once) exact

/-- A walk that starts again does not come to an end, and all its pages are alike. -/
theorem walk_restarts (restarts : objects.Restarts bucket keyPrefix) (count : Nat)
    {next : Continuation} {token : Option String} (asked : next.request = some token)
    (start : token.getD "" = "") :
    let outcome := (Listing.walk (store machine) bucket keyPrefix count next).run (objects, outside)
    outcome.value ≠ .nothing ∧ outcome.events.length = count ∧
      ∀ exchange ∈ outcome.events, exchange.items.map ObjectEntry.key = [""] := by
  -- Every page of this walk is the first page again, so the induction is on the count.
  induction count generalizing next token with
  | zero =>
    -- A walk that has fetched nothing still has something to ask for.
    refine ⟨fun ended => ?_, rfl, List.forall_mem_nil _⟩
    rw [show next = .nothing from ended] at asked
    exact nomatch asked
  | succ count ih =>
    intro outcome
    have stepped : outcome = _ := Listing.run_walk_page (store machine) bucket keyPrefix asked
      (answer_listPage machine outside token) count
    -- The page asks for itself, and the rest of the walk is such a walk again.
    obtain ⟨entry, empty, page⟩ := restarts.page_eq start
    have asks : (Continuation.after "").request = some (some "") := rfl
    obtain ⟨endless, length, alike⟩ := ih asks rfl
    rw [stepped, page]
    refine ⟨endless, congrArg (· + 1) length, List.forall_mem_cons.mpr ⟨?_, alike⟩⟩
    exact congrArg (fun key => [key]) empty

/-- A listing that does not start again serves all that is listed. -/
theorem serves_matching (positive : 0 < objects.pageSize)
    (once : ¬ objects.Restarts bucket keyPrefix) :
    Listing.Serves (store machine) bucket keyPrefix (objects, outside)
      (objects.matching bucket keyPrefix "") none := by
  -- The walk that ends is the one that shows what is served.
  have asks : Continuation.first.request = some none := rfl
  obtain ⟨ended, -⟩ := walk_ends machine outside positive once _ asks rfl
  exact ⟨_, ended, walk_of_ended machine outside positive _ asks ended⟩

end Walk

/-- No page brings a key that one before it has brought. -/
def Progresses (made : List Exchange) : Prop :=
  made.Pairwise fun earlier later =>
    ∀ key ∈ later.items.map ObjectEntry.key, key ∉ earlier.items.map ObjectEntry.key

/-- Pages whose entries ascend bring no key twice. -/
theorem progresses_of_ascending {made : List Exchange} (ascending : Ascending (itemsOf made)) :
    Progresses made := by
  -- Across two pages keys are less than those behind them, and so they differ.
  refine (List.pairwise_flatMap.mp ascending).2.imp ?_
  intro earlier later across key again before
  obtain ⟨entry, member, rfl⟩ := List.mem_map.mp again
  obtain ⟨other, front, same⟩ := List.mem_map.mp before
  have less := across other front entry member
  rw [same] at less
  exact String.lt_irrefl _ less

/-- No consumer of a listing that starts again is ever told of an end, however often it asks. -/
theorem Restarts.endless {σ : Type} (machine : Machine σ) (outside : σ) {objects : MemoryStore}
    {bucket keyPrefix : String} (restarts : objects.Restarts bucket keyPrefix)
    (patience : List Nat) :
    let outcome := (Listing.pullAll (store machine) patience (.start bucket keyPrefix)).run
      (objects, outside)
    .ended ∉ outcome.value.1 ∧
      ∀ exchange ∈ outcome.events, exchange.items.map ObjectEntry.key = [""] := by
  -- A consumer is told of the end only behind the end of a walk.
  intro outcome
  have given := Listing.given_pullAll_start (store machine) bucket keyPrefix patience
    (objects, outside)
  obtain ⟨count, walks⟩ := Listing.walk_pullAll (store machine) patience
    (.start bucket keyPrefix) (objects, outside)
  have asks : Continuation.first.request = some none := rfl
  -- What the consumer makes be fetched is a walk, and no walk comes to an end.
  obtain ⟨endless, -, alike⟩ := walk_restarts machine outside restarts count asks rfl
  rw [show (Listing.walk (store machine) bucket keyPrefix count .first).run _ = _ from walks]
    at endless alike
  exact ⟨fun told => endless (given.ceased .ended told rfl), alike⟩

/-- A listing of a store that nobody changes comes to its end after as many fetches as its keys fill
pages, one at least, and no page brings a key again, unless a page holds one key only, the empty key
is listed and another is listed too: then the empty token asks for the first page again, and the
listing brings the empty key for ever. -/
theorem listing_ends_unless_it_restarts {σ : Type} (machine : Machine σ) (outside : σ)
    {objects : MemoryStore} (positive : 0 < objects.pageSize) (bucket keyPrefix : String) :
    let run := fun patience : List Nat =>
      (Listing.pullAll (store machine) patience (.start bucket keyPrefix)).run (objects, outside)
    ∃ keys : List String, keys.Pairwise (· < ·) ∧
      (∀ key, key ∈ keys ↔
        (objects.get? ⟨bucket, key⟩).isSome = true ∧ keyPrefix.toList <+: key.toList) ∧
      (¬ objects.Restarts bucket keyPrefix →
        (∃ enough, ∀ patience : List Nat, (∀ fetches ∈ patience, enough ≤ fetches) →
          keys.length < patience.length → .ended ∈ (run patience).value.1) ∧
        ∀ patience, Progresses (run patience).events ∧
          (run patience).events.length ≤ pagesFor objects.pageSize keys.length ∧
          (.ended ∈ (run patience).value.1 →
            (run patience).events.length = pagesFor objects.pageSize keys.length)) ∧
      (objects.Restarts bucket keyPrefix → ∀ patience, .ended ∉ (run patience).value.1 ∧
        ∀ exchange ∈ (run patience).events, exchange.items.map ObjectEntry.key = [""]) := by
  -- The keys are those that are listed, and the pages are those of the walk over them.
  intro run
  have asks : Continuation.first.request = some none := rfl
  have ascending := objects.ascending_matching bucket keyPrefix ""
  refine ⟨(objects.matching bucket keyPrefix "").map ObjectEntry.key,
    List.pairwise_map.mpr ascending, objects.mem_matching_iff bucket keyPrefix, ?_, ?_⟩
  · intro once
    have serves := serves_matching machine outside positive once
    obtain ⟨pages, exact⟩ : ∃ pages, pagesFor objects.pageSize
        (objects.matching bucket keyPrefix "").length = pages := ⟨_, rfl⟩
    obtain ⟨ended, length⟩ := walk_ends machine outside positive once pages asks exact
    obtain ⟨items, -⟩ := walk_of_ended machine outside positive pages asks ended
    rw [List.length_map, exact]
    refine ⟨?_, fun patience => ?_⟩
    · obtain ⟨enough, ample⟩ := serves.exists_patience
      refine ⟨enough, fun patience least longer => ?_⟩
      rw [show (run patience).value.1 = _ from ample patience least]
      -- The end comes right behind the last entry.
      refine List.mem_map.mpr ⟨_, List.mem_range.mpr longer, ?_⟩
      exact Listing.yielded_ended (Nat.le_refl _) (absurd rfl)
    · -- A consumer makes no more be fetched than the walk fetches.
      obtain ⟨beginning, all⟩ := Listing.made_of_walk ended patience
      have given := Listing.given_pullAll_start (store machine) bucket keyPrefix patience
        (objects, outside)
      refine ⟨?_, ?_, fun told => ?_⟩
      · have whole : Ascending (itemsOf ((Listing.walk (store machine) bucket keyPrefix pages
            .first).run (objects, outside)).events) := by
          rw [items]
          exact ascending
        exact (progresses_of_ascending whole).sublist beginning.sublist
      · exact Nat.le_trans beginning.length_le (Nat.le_of_eq length)
      · exact (congrArg List.length (all (given.ceased .ended told rfl))).trans length
  · -- A listing that restarts was looked at above.
    intro restarts patience
    exact restarts.endless machine outside patience

/-- Two keys on pages of one key each, and the first of them is empty. -/
def nameless : MemoryStore := ((empty 1).insert ⟨"bucket", ""⟩ .empty).insert ⟨"bucket", "a"⟩ .empty

/-- Two keys do not always end after two fetches: behind an empty key no consumer is ever told of
the end, and already the second page brings the key of the first. -/
theorem nameless_listing_never_ends :
    let run := fun patience : List Nat =>
      (Listing.pullAll (store bare) patience (.start "bucket" "")).run (nameless, ())
    nameless.size = 2 ∧ (∀ patience, .ended ∉ (run patience).value.1) ∧
      ¬ Progresses (run [1, 1]).events := by
  -- All that makes a listing restart can be looked up here.
  intro run
  have restarts : nameless.Restarts "bucket" "" := ⟨rfl, rfl, rfl, "a", by decide, rfl⟩
  refine ⟨rfl, fun patience => (restarts.endless bare () patience).1, fun progresses => ?_⟩
  have fresh := List.rel_of_pairwise_cons progresses List.mem_cons_self "" List.mem_cons_self
  exact fresh List.mem_cons_self

/-- The empty key and two others on pages of two keys. -/
def roomy : MemoryStore :=
  (((empty 2).insert ⟨"bucket", ""⟩ .empty).insert ⟨"bucket", "a"⟩ .empty).insert ⟨"bucket", "b"⟩
    .empty

/-- On pages of two keys the empty key does no harm. -/
theorem listing_ends_unless_it_restarts_roomy :
    let run := fun patience : List Nat =>
      (Listing.pullAll (store bare) patience (.start "bucket" "")).run (roomy, ())
    (∀ patience, Progresses (run patience).events) ∧ .ended ∈ (run [1, 1, 1, 1]).value.1 ∧
      (run [1, 1, 1, 1]).events.length = 2 := by
  -- A page of two keys is enough not to restart.
  intro run
  have positive : 0 < roomy.pageSize := Nat.two_pos
  have once : ¬ roomy.Restarts "bucket" "" := fun restarts => nomatch restarts.single
  obtain ⟨keys, -, -, ends, -⟩ := listing_ends_unless_it_restarts bare () positive "bucket" ""
  refine ⟨fun patience => ((ends once).2 patience).1, ?_, rfl⟩
  exact List.mem_of_getElem? (show (run [1, 1, 1, 1]).value.1[3]? = some .ended from rfl)

end ObjectStorage.MemoryStore
