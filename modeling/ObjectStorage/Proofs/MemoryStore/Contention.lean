import ObjectStorage.Proofs.Listing.Consumer
import ObjectStorage.Proofs.MemoryStore.Changes
import ObjectStorage.Proofs.MemoryStore.Pages

/-! A listing of the store in memory while others change it: whatever they do between two fetches,
the keys that are handed out ascend, each was there when its page was fetched, and none that was
there at every fetch is missed. -/

namespace ObjectStorage.MemoryStore

/-- What others do to the objects: a round of changes, perhaps of none, before each call. -/
abbrev Rounds := Nat → List Change

/-- The rounds behind the first. -/
def Rounds.later (rounds : Rounds) : Rounds := fun number => rounds (number + 1)

variable {σ : Type} (machine : Machine σ)

/-- The objects and the machine at a fetch of a listing, after all rounds in front of it. -/
def moment : Rounds → MemoryStore × σ → Nat → MemoryStore × σ
  | rounds, condition, 0 => carryOutAll machine (rounds 0) condition
  | rounds, condition, number + 1 =>
    moment rounds.later (carryOutAll machine (rounds 0) condition) number

/-- The store in memory when others use it too: they make a round of changes before each call. -/
def contended : Store (Rounds × MemoryStore × σ) where
  answer call := fun (rounds, condition) =>
    let answered := (store machine).answer call (carryOutAll machine (rounds 0) condition)
    (answered.1, rounds.later, answered.2)

/-- A page is fetched from what the round in front of it left, and the fetch changes nothing. -/
theorem answer_contended (bucket keyPrefix : String) (token : Option String) (rounds : Rounds)
    (condition : MemoryStore × σ) :
    (contended machine).answer (.listPage bucket keyPrefix token) (rounds, condition) =
      (.ok ((moment machine rounds condition 0).1.page bucket keyPrefix token), rounds.later,
        moment machine rounds condition 0) := rfl

/-- Changes between the fetches leave the size of pages as it is. -/
theorem pageSize_moment (rounds : Rounds) (condition : MemoryStore × σ) (number : Nat) :
    (moment machine rounds condition number).1.pageSize = condition.1.pageSize := by
  induction number generalizing rounds condition with
  | zero => exact pageSize_carryOutAll machine (rounds 0) condition
  -- No round changes the size, so the later moments have that of the first.
  | succ number ih =>
    rw [moment, ih]
    exact pageSize_carryOutAll machine (rounds 0) condition

/-- A store in which no object has the empty key. -/
def Named (objects : MemoryStore) : Prop := ∀ bucket, objects.get? ⟨bucket, ""⟩ = none

/-- A store without empty keys keeps so if none is written. -/
theorem named_carryOutAll {changes : List Change}
    (naming : ∀ change ∈ changes, change.target.key ≠ "") {condition : MemoryStore × σ}
    (named : condition.1.Named) : (carryOutAll machine changes condition).1.Named := by
  -- No change writes an empty key, so the induction is on the changes.
  induction changes generalizing condition with
  | nil => exact named
  | cons change changes ih =>
    obtain ⟨first, others⟩ := List.forall_mem_cons.mp naming
    refine ih others fun bucket => ?_
    -- The change is about another key.
    have other : (⟨bucket, ""⟩ : ObjectRef) ≠ change.target := by
      intro same
      exact first (congrArg ObjectRef.key same).symm
    exact (carryOut_other machine condition.1 condition.2 other).trans (named bucket)

/-- If nobody writes an empty key, none is there at any fetch. -/
theorem named_moment {rounds : Rounds}
    (naming : ∀ number, ∀ change ∈ rounds number, change.target.key ≠ "")
    {condition : MemoryStore × σ} (named : condition.1.Named) (number : Nat) :
    (moment machine rounds condition number).1.Named := by
  -- The moment of each fetch is that of the fetch before it, after one round more.
  induction number generalizing rounds condition with
  | zero => exact named_carryOutAll machine (naming 0) named
  -- What the first round leaves is where the others start.
  | succ number ih =>
    exact ih (fun later => naming (later + 1)) (named_carryOutAll machine (naming 0) named)

/-- What is known of pages that were fetched behind a token, one after another, from a store that
changed between the fetches. -/
structure Surveyed (held : Nat → MemoryStore) (bucket keyPrefix token : String)
    (made : List Exchange) (last : Continuation) : Prop where
  /-- A page brings what is listed when it is fetched. -/
  listed : ∀ number exchange, made[number]? = some exchange →
    ∀ entry ∈ exchange.items, entry ∈ (held number).matching bucket keyPrefix token
  ascending : Ascending (itemsOf made)
  /-- At the end no key is missing that was listed at each fetch. -/
  complete : last = .nothing → ∀ key, follows token key = true →
    (∀ number < made.length,
      key ∈ ((held number).matching bucket keyPrefix "").map ObjectEntry.key) →
    key ∈ (itemsOf made).map ObjectEntry.key

section Surveyed

variable {held : Nat → MemoryStore} {bucket keyPrefix : String} {token : Option String}
  {made : List Exchange} {last : Continuation}

/-- Before anything is fetched, something is left to ask for. -/
theorem surveyed_nil (onward : last ≠ .nothing) (token : String) :
    Surveyed held bucket keyPrefix token [] last where
  -- Nothing was fetched, and the end was not reached.
  listed _ _ none := nomatch none
  ascending := .nil
  complete ended := absurd ended onward

/-- A page that holds all that is left ends a survey. -/
theorem surveyed_last
    (few : ((held 0).matching bucket keyPrefix (token.getD "")).length ≤ (held 0).pageSize) :
    Surveyed held bucket keyPrefix (token.getD "")
      [⟨.listPage bucket keyPrefix token, .ok ((held 0).page bucket keyPrefix token)⟩]
      .nothing := by
  -- The survey has one page, and that is all that is listed behind the token.
  rw [page_of_few few]
  have items : itemsOf [(⟨.listPage bucket keyPrefix token,
      .ok ⟨(held 0).matching bucket keyPrefix (token.getD ""), false, none⟩⟩ : Exchange)] =
      (held 0).matching bucket keyPrefix (token.getD "") := List.append_nil _
  refine ⟨?_, ?_, ?_⟩
  · -- There is no fetch but the first.
    intro number exchange found entry member
    obtain ⟨rfl, rfl⟩ : number = 0 ∧ _ = exchange := by
      cases number with
      | zero => exact ⟨rfl, Option.some.inj found⟩
      | succ number => exact nomatch found
    exact member
  · rw [items]
    exact (held 0).ascending_matching bucket keyPrefix _
  · intro _ key behind there
    rw [items]
    -- The key was there at this fetch, and so it is on the page.
    obtain ⟨entry, member, rfl⟩ := List.mem_map.mp (there 0 Nat.one_pos)
    refine List.mem_map_of_mem ?_
    rw [matching_eq_filter]
    exact List.mem_filter.mpr ⟨member, behind⟩

/-- A page that is cut short goes in front of a survey of what is behind its last key. -/
theorem surveyed_page (positive : 0 < (held 0).pageSize)
    (named : ∀ entry ∈ (held 0).matching bucket keyPrefix "", entry.key ≠ "")
    (many : (held 0).pageSize < ((held 0).matching bucket keyPrefix (token.getD "")).length)
    (rest : ∀ next, ((held 0).page bucket keyPrefix token).continuation = .after next →
      Surveyed (fun number => held (number + 1)) bucket keyPrefix next made last) :
    Surveyed held bucket keyPrefix (token.getD "")
      (⟨.listPage bucket keyPrefix token, .ok ((held 0).page bucket keyPrefix token)⟩ :: made)
      last := by
  -- The page goes up to its last key, and the rest of the survey is behind that key.
  obtain ⟨before, final, left, found, -, cut⟩ := page_of_many positive many
  rw [cut] at rest ⊢
  have onward := rest final.key rfl
  have items : itemsOf (⟨.listPage bucket keyPrefix token,
      .ok ⟨before ++ [final], true, some final.key⟩⟩ :: made) =
      (before ++ [final]) ++ itemsOf made := rfl
  have inside : ∀ entry ∈ before ++ [final],
      entry ∈ (held 0).matching bucket keyPrefix (token.getD "") := by
    intro entry member
    rw [found, List.append_cons]
    exact List.mem_append_left left member
  -- The last key of the page is the token of the next one, and it is not empty.
  have reached := (held 0).follows_of_mem bucket keyPrefix (inside final (by simp))
  have nonempty : final.key ≠ "" := by
    have member := inside final (by simp)
    rw [matching_eq_filter] at member
    exact named final (List.mem_filter.mp member).1
  -- What is fetched later is behind the last key of the page.
  have behind : ∀ entry ∈ itemsOf made, final.key < entry.key := by
    intro entry member
    obtain ⟨exchange, fetched, brought⟩ := List.mem_flatMap.mp member
    obtain ⟨number, within, rfl⟩ := List.mem_iff_getElem.mp fetched
    have listed := onward.listed number _ (List.getElem?_eq_getElem within) entry brought
    exact (follows_iff nonempty).mp (follows_of_mem _ bucket keyPrefix listed)
  have ordered := (held 0).ascending_matching bucket keyPrefix (token.getD "")
  rw [found] at ordered
  refine ⟨?_, ?_, ?_⟩
  · -- The first fetch is the page, and the others are those of the rest.
    intro number exchange there entry member
    cases number with
    | zero =>
      obtain rfl := Option.some.inj there
      exact inside entry member
    -- What follows the last key follows the token too.
    | succ number =>
      have later := onward.listed number exchange there entry member
      rw [matching_eq_filter, List.mem_filter] at later ⊢
      exact ⟨later.1, follows_of_lt reached ((follows_iff nonempty).mp later.2)⟩
  · rw [items]
    rw [List.append_cons] at ordered
    refine List.pairwise_append.mpr ⟨(List.pairwise_append.mp ordered).1, onward.ascending, ?_⟩
    -- No entry of the page has a greater key than the last.
    intro entry member other further
    rcases List.mem_append.mp member with front | same
    · have less := (List.pairwise_append.mp (List.pairwise_append.mp ordered).1).2.2 entry front
        final (by simp)
      exact String.lt_trans less (behind other further)
    · obtain rfl := List.mem_singleton.mp same
      exact behind other further
  · intro ended key past there
    rw [items, List.map_append]
    -- A key that was there at this fetch is on the page or behind its last key.
    obtain ⟨entry, member, rfl⟩ := List.mem_map.mp (there 0 (Nat.succ_pos _))
    have listed : entry ∈ (held 0).matching bucket keyPrefix (token.getD "") := by
      rw [matching_eq_filter]
      exact List.mem_filter.mpr ⟨member, past⟩
    rw [found, List.append_cons] at listed
    rcases List.mem_append.mp listed with here | remains
    · exact List.mem_append_left _ (List.mem_map_of_mem here)
    · refine List.mem_append_right _ (onward.complete ended entry.key ?_ ?_)
      · rw [follows_iff nonempty]
        exact List.rel_of_pairwise_cons (List.pairwise_append.mp ordered).2.1 remains
      · intro number fewer
        exact there (number + 1) (Nat.succ_lt_succ fewer)

end Surveyed

/-- In a store without empty keys none is listed. -/
theorem Named.key_ne {objects : MemoryStore} (named : objects.Named) {bucket keyPrefix : String}
    {entry : ObjectEntry} (listed : entry ∈ objects.matching bucket keyPrefix "") :
    entry.key ≠ "" := by
  -- Only what is held is listed, and nothing is held under an empty key.
  intro empty
  have there := (objects.mem_matching_iff bucket keyPrefix entry.key).mp
    (List.mem_map_of_mem listed)
  rw [empty, named bucket] at there
  exact nomatch there.1

/-- A walk through a store that others change is a survey. -/
theorem surveyed_walk (bucket keyPrefix : String) (count : Nat) {next : Continuation}
    {token : Option String} (asked : next.request = some token) {rounds : Rounds}
    {condition : MemoryStore × σ} (positive : 0 < condition.1.pageSize)
    (named : ∀ number, (moment machine rounds condition number).1.Named) :
    let outcome :=
      (Listing.walk (contended machine) bucket keyPrefix count next).run (rounds, condition)
    Surveyed (fun number => (moment machine rounds condition number).1) bucket keyPrefix
      (token.getD "") outcome.events outcome.value := by
  -- One fetch is a page in front of the survey that the other fetches are.
  induction count generalizing next token rounds condition with
  | zero =>
    refine surveyed_nil (fun ended => ?_) _
    rw [show next = .nothing from ended] at asked
    exact nomatch asked
  | succ count ih =>
    intro outcome
    have stepped : outcome = _ := Listing.run_walk_page (contended machine) bucket keyPrefix asked
      (answer_contended machine bucket keyPrefix token rounds condition) count
    have size := pageSize_moment machine rounds condition 0
    have still : 0 < (moment machine rounds condition 0).1.pageSize := by omega
    rw [stepped]
    -- Either the page is cut short and others follow, or it is the last.
    rcases Nat.lt_or_ge (moment machine rounds condition 0).1.pageSize
      ((moment machine rounds condition 0).1.matching bucket keyPrefix (token.getD "")).length
      with many | few
    · refine surveyed_page still (fun entry => (named 0).key_ne) many fun next onward => ?_
      have asks : (Continuation.after next).request = some (some next) := rfl
      rw [onward]
      exact ih asks still fun number => named (number + 1)
    · -- The last page asks for nothing more.
      have ended :
          ((moment machine rounds condition 0).1.page bucket keyPrefix token).continuation =
            .nothing := by
        rw [page_of_few few]
        rfl
      rw [ended, Listing.walk_nothing]
      exact surveyed_last few

/-- A listing of a store that others change between its fetches, in any way but with no empty key,
hands out ascending keys, each of which began with the prefix and was there when its page was
fetched. If it comes to its end, every such key that was there at each fetch was handed out, and
just once. -/
theorem listing_survives_changes {objects : MemoryStore} (positive : 0 < objects.pageSize)
    {rounds : Rounds} {outside : σ}
    (named : ∀ number, (moment machine rounds (objects, outside) number).1.Named)
    (bucket keyPrefix : String) (patience : List Nat) :
    let outcome := (Listing.pullAll (contended machine) patience (.start bucket keyPrefix)).run
      (rounds, objects, outside)
    let held := fun number => (moment machine rounds (objects, outside) number).1
    let keys := (Listing.handed outcome.value.1).map ObjectEntry.key
    keys.Pairwise (· < ·) ∧
      (∀ key ∈ keys, ∃ number exchange, outcome.events[number]? = some exchange ∧
        key ∈ exchange.items.map ObjectEntry.key ∧
        ((held number).get? ⟨bucket, key⟩).isSome = true ∧ keyPrefix.toList <+: key.toList) ∧
      (.ended ∈ outcome.value.1 → ∀ key : String, keyPrefix.toList <+: key.toList →
        (∀ number < outcome.events.length,
          ((held number).get? ⟨bucket, key⟩).isSome = true) →
        keys.count key = 1) := by
  -- The fetches of the consumer are a walk, and so all of them are a survey.
  intro outcome held keys
  have given := Listing.given_pullAll_start (contended machine) bucket keyPrefix patience
    (rounds, objects, outside)
  obtain ⟨count, walks⟩ := Listing.walk_pullAll (contended machine) patience
    (.start bucket keyPrefix) (rounds, objects, outside)
  have asks : Continuation.first.request = some none := rfl
  have survey := surveyed_walk machine bucket keyPrefix count asks positive named
  rw [show (Listing.walk (contended machine) bucket keyPrefix count .first).run _ = _ from walks]
    at survey
  -- What was handed out is a beginning of what was fetched.
  have handed : Listing.handed outcome.value.1 = _ := given.handed_eq
  have ascending : keys.Pairwise (· < ·) := by
    refine List.pairwise_map.mpr ?_
    rw [handed]
    exact survey.ascending.sublist (List.take_sublist _ _)
  refine ⟨ascending, ?_, ?_⟩
  · -- A key that was handed out stands on a page, and that page was fetched at some moment.
    intro key member
    obtain ⟨entry, given, rfl⟩ := List.mem_map.mp member
    rw [handed] at given
    obtain ⟨exchange, fetched, brought⟩ := List.mem_flatMap.mp (List.mem_of_mem_take given)
    obtain ⟨number, within, rfl⟩ := List.mem_iff_getElem.mp fetched
    have there := List.getElem?_eq_getElem within
    have listed := survey.listed number _ there entry brought
    rw [matching_eq_filter, List.mem_filter] at listed
    -- The page brought what was listed at its fetch, and that is what was there.
    have live := ((held number).mem_matching_iff bucket keyPrefix entry.key).mp
      (List.mem_map_of_mem listed.1)
    exact ⟨number, _, there, List.mem_map_of_mem brought, live.1, live.2⟩
  · -- At the end all that was fetched has been handed out.
    intro ended key begins there
    have all : Listing.handed outcome.value.1 = itemsOf outcome.events :=
      given.handed_of_ended ended
    have last : outcome.value.2.next = .nothing := given.ceased .ended ended rfl
    -- Ascending keys are not repeated, so to be there once is to be there.
    have nodup : keys.Nodup := by
      refine ascending.imp ?_
      intro earlier later less same
      rw [same] at less
      exact String.lt_irrefl later less
    have member : key ∈ keys := by
      change key ∈ (Listing.handed outcome.value.1).map ObjectEntry.key
      rw [all]
      refine survey.complete last key rfl fun number fewer => ?_
      exact ((held number).mem_matching_iff bucket keyPrefix key).mpr ⟨there number fewer, begins⟩
    rw [nodup.count, if_pos member]

/-- Two objects on pages of one key each. -/
def pair : MemoryStore := ((empty 1).insert ⟨"bucket", "a"⟩ .empty).insert ⟨"bucket", "b"⟩ .empty

/-- After the first fetch somebody deletes the key that serves as token, and stores two others. -/
def reshuffle : Rounds
  | 1 => [.delete ⟨"bucket", "a"⟩, .insert ⟨"bucket", "0"⟩ .empty, .insert ⟨"bucket", "c"⟩ .empty]
  | _ => []

/-- A listing goes on behind a token that was deleted: what was stored behind it is handed out, and
the key that was there all along just once. -/
theorem listing_survives_changes_reshuffle :
    let outcome := (Listing.pullAll (contended bare) [1, 1, 1, 1] (.start "bucket" "")).run
      (reshuffle, pair, ())
    let keys := (Listing.handed outcome.value.1).map ObjectEntry.key
    keys = ["a", "b", "c"] ∧ keys.Pairwise (· < ·) ∧ keys.count "b" = 1 := by
  -- No key that is stored here is empty, and the consumer asks until it is told of the end.
  intro outcome keys
  have naming : ∀ number, ∀ change ∈ reshuffle number, change.target.key ≠ "" := by
    intro number
    rcases number with _ | _ | number <;> simp [reshuffle, Change.target]
  have named : pair.Named := by
    intro bucket
    simp [pair]
  have positive : 0 < pair.pageSize := Nat.one_pos
  -- The general theorem gives the order, and what was there all along.
  obtain ⟨ascending, -, complete⟩ := listing_survives_changes bare positive
    (named_moment bare naming named) "bucket" "" [1, 1, 1, 1]
  have ended : Pulled.ended ∈ outcome.value.1 :=
    List.mem_of_getElem? (show outcome.value.1[3]? = some .ended from rfl)
  have fetched : outcome.events.length = 3 := rfl
  refine ⟨rfl, ascending, complete ended "b" List.nil_prefix fun number fewer => ?_⟩
  change number < outcome.events.length at fewer
  rw [fetched] at fewer
  -- The key is there at each of the three fetches.
  rcases number with _ | _ | _ | number
  · rfl
  · rfl
  · rfl
  · omega

end ObjectStorage.MemoryStore
