import ObjectStorage.MemoryStore
import ObjectStorage.Proofs.Listing.Walk

/-! The pages of the store in memory: page after page they bring the keys in order, as often as
fetching comes to an end. -/

namespace ObjectStorage

/-- Entries in the order of their keys, without a key twice. -/
def Ascending (entries : List ObjectEntry) : Prop :=
  entries.Pairwise fun earlier later => earlier.key < later.key

/-- The entries behind one of them are those with greater keys. -/
theorem Ascending.filter_behind {before rest : List ObjectEntry} {last : ObjectEntry}
    (ascending : Ascending (before ++ last :: rest)) :
    (before ++ last :: rest).filter (fun entry => decide (last.key < entry.key)) = rest := by
  -- Those in front have smaller keys and those behind have greater ones.
  obtain ⟨-, behind, across⟩ := List.pairwise_append.mp ascending
  have none : before.filter (fun entry => decide (last.key < entry.key)) = [] := by
    refine List.filter_eq_nil_iff.mpr fun entry member => ?_
    have less := across entry member last List.mem_cons_self
    simpa using String.lt_asymm less
  have all : rest.filter (fun entry => decide (last.key < entry.key)) = rest := by
    refine List.filter_eq_self.mpr fun entry member => ?_
    simpa using List.rel_of_pairwise_cons behind member
  rw [List.filter_append, List.filter_cons, none, all]
  simp

/-- Of objects in one bucket, the order is that of their keys. -/
theorem ObjectRef.key_lt_key {first second : ObjectRef} (same : first.bucket = second.bucket)
    (less : ObjectRef.order first second = .lt) : first.key < second.key := by
  -- Equal buckets leave the decision to the keys.
  have keys : compare first.key second.key = .lt := by
    simpa [ObjectRef.order, compareLex, compareOn, same, Std.ReflCmp.compare_self] using less
  exact (compareOfLessAndEq_eq_lt).mp keys

namespace MemoryStore

variable (objects : MemoryStore) (bucket keyPrefix : String)

/-- What is listed behind a token is what is listed at all and follows the token. -/
theorem matching_eq_filter (token : String) :
    objects.matching bucket keyPrefix token =
      (objects.matching bucket keyPrefix "").filter fun entry => follows token entry.key := by
  -- Everything follows the empty token, so only the other conditions remain.
  have all : ∀ key, follows "" key = true := fun _ => rfl
  simp only [matching, List.filter_map, List.filter_filter, all, Bool.and_true]
  congr 2
  funext object
  exact Bool.and_comm _ _

/-- Listed entries are in the order of their keys. -/
theorem ascending_matching (token : String) :
    Ascending (objects.matching bucket keyPrefix token) := by
  -- The objects are held in order, and those that are listed are of one bucket.
  rw [Ascending, matching, List.pairwise_map, List.pairwise_filter]
  refine objects.objects.ordered_keys_toList.imp fun {first second} less one other => ?_
  simp only [Bool.and_eq_true, beq_iff_eq] at one other
  exact ObjectRef.key_lt_key (one.1.1.trans other.1.1.symm) less

/-- An entry is listed if an object is there under its key, the key begins with the prefix, and the
entry tells the size of the object. -/
theorem entry_mem_matching_iff (entry : ObjectEntry) :
    entry ∈ objects.matching bucket keyPrefix "" ↔
      keyPrefix.toList <+: entry.key.toList ∧
        ∃ data, objects.get? ⟨bucket, entry.key⟩ = some data ∧
          entry = .ofSize entry.key data.size := by
  have all : ∀ key, follows "" key = true := fun _ => rfl
  simp only [matching, List.mem_map, List.mem_filter, Bool.and_eq_true, beq_iff_eq,
    List.isPrefixOf_iff_prefix, all, and_true]
  -- What is held of an object is what its look-up finds.
  constructor
  · rintro ⟨⟨target, data⟩, ⟨stored, rfl, begins⟩, rfl⟩
    exact ⟨begins, data, Std.TreeMap.mem_toList_iff_getElem?_eq_some.mp stored, rfl⟩
  · rintro ⟨begins, data, found, told⟩
    have stored := Std.TreeMap.mem_toList_iff_getElem?_eq_some.mpr found
    exact ⟨(⟨bucket, entry.key⟩, data), ⟨stored, rfl, begins⟩, told.symm⟩

/-- A key is listed if its object is there and the key begins with the prefix. -/
theorem mem_matching_iff (key : String) :
    key ∈ (objects.matching bucket keyPrefix "").map ObjectEntry.key ↔
      (objects.get? ⟨bucket, key⟩).isSome = true ∧ keyPrefix.toList <+: key.toList := by
  -- The key of an entry is that of its object.
  rw [List.mem_map]
  constructor
  · rintro ⟨entry, listed, rfl⟩
    obtain ⟨begins, data, found, -⟩ :=
      (entry_mem_matching_iff objects bucket keyPrefix entry).mp listed
    exact ⟨Option.isSome_iff_exists.mpr ⟨data, found⟩, begins⟩
  · rintro ⟨there, begins⟩
    obtain ⟨data, found⟩ := Option.isSome_iff_exists.mp there
    -- The object's own entry is the one that is listed.
    refine ⟨.ofSize key data.size, ?_, rfl⟩
    exact (entry_mem_matching_iff objects bucket keyPrefix _).mpr ⟨begins, data, found, rfl⟩

/-- What is listed behind a token follows it. -/
theorem follows_of_mem {token : String} {entry : ObjectEntry}
    (member : entry ∈ objects.matching bucket keyPrefix token) :
    follows token entry.key = true := by
  -- What is listed behind a token was filtered by it.
  rw [matching_eq_filter] at member
  exact (List.mem_filter.mp member).2

/-- Behind a token that is not empty the greater keys are listed. -/
theorem follows_iff {token key : String} (named : token ≠ "") :
    follows token key = true ↔ token < key := by
  -- Only the empty token asks nothing of a key.
  simp [follows, named]

/-- No key comes before the empty one. -/
theorem not_lt_empty (key : String) : ¬ key < "" :=
  -- A key without characters has nothing to be compared at.
  List.not_lt_nil _

/-- The empty key follows no token but the empty one. -/
theorem follows_empty_iff {token : String} : follows token "" = true ↔ token = "" := by
  -- No token but the empty one stands before it.
  rw [follows, Bool.or_eq_true, String.isEmpty_iff, decide_eq_true_eq]
  exact or_iff_left (not_lt_empty token)

/-- The empty key is listed behind no token but the empty one. -/
theorem token_eq_empty {token : String} {entry : ObjectEntry}
    (listed : entry ∈ objects.matching bucket keyPrefix token) (empty : entry.key = "") :
    token = "" := by
  -- What is listed follows the token, and the empty key follows just one.
  have reached := objects.follows_of_mem bucket keyPrefix listed
  rw [empty] at reached
  exact follows_empty_iff.mp reached

/-- What is behind a key that follows a token follows the token too. -/
theorem follows_of_lt {token key later : String} (reached : follows token key = true)
    (less : key < later) : follows token later = true := by
  -- Behind the empty token all keys follow, and behind others those that are greater.
  by_cases named : token = ""
  · rw [named]
    rfl
  · rw [follows_iff named] at reached ⊢
    exact String.lt_trans reached less

/-- Behind an entry that follows a token, the entries with greater keys are listed, unless its key
is empty. -/
theorem matching_behind {token : String} {before rest : List ObjectEntry} {last : ObjectEntry}
    (found : objects.matching bucket keyPrefix token = before ++ last :: rest)
    (named : last.key ≠ "") : objects.matching bucket keyPrefix last.key = rest := by
  -- The entry follows the token, and what is greater follows both.
  have ascending := objects.ascending_matching bucket keyPrefix token
  have reached : follows token last.key = true :=
    objects.follows_of_mem bucket keyPrefix (by simp [found])
  -- What follows the entry follows the token too, so it is found among these.
  have narrowed : objects.matching bucket keyPrefix last.key =
      (objects.matching bucket keyPrefix token).filter fun entry =>
        decide (last.key < entry.key) := by
    rw [matching_eq_filter, matching_eq_filter objects bucket keyPrefix token, List.filter_filter]
    refine List.filter_congr fun entry _ => ?_
    rw [Bool.eq_iff_iff, Bool.and_eq_true, decide_eq_true_eq, follows_iff named]
    constructor
    · exact fun less => ⟨less, follows_of_lt reached less⟩
    · exact And.left
  rw [found] at ascending narrowed
  rw [narrowed, ascending.filter_behind]

variable {objects} {bucket keyPrefix}

/-- A page that holds all that is left is the last. -/
theorem page_of_few {token : Option String}
    (few : (objects.matching bucket keyPrefix (token.getD "")).length ≤ objects.pageSize) :
    objects.page bucket keyPrefix token =
      ⟨objects.matching bucket keyPrefix (token.getD ""), false, none⟩ := by
  -- So many entries are taken as there are, and no place is missing.
  simp [page, List.take_of_length_le few, Nat.not_lt.mpr few]

/-- A page that does not hold all that is left is cut short, and its token is its last key. -/
theorem page_of_many (positive : 0 < objects.pageSize) {token : Option String}
    (many : objects.pageSize < (objects.matching bucket keyPrefix (token.getD "")).length) :
    ∃ before last rest,
      objects.matching bucket keyPrefix (token.getD "") = before ++ last :: rest ∧
      before.length + 1 = objects.pageSize ∧
      objects.page bucket keyPrefix token = ⟨before ++ [last], true, some last.key⟩ := by
  -- The page ends at the last place that it has, and the rest is left behind it.
  generalize found : objects.matching bucket keyPrefix (token.getD "") = entries at many
  have within : objects.pageSize - 1 < entries.length := by omega
  have split : entries.take objects.pageSize =
      entries.take (objects.pageSize - 1) ++ [entries[objects.pageSize - 1]] := by
    rw [List.take_append_getElem, Nat.sub_add_cancel positive]
  refine ⟨entries.take (objects.pageSize - 1), entries[objects.pageSize - 1],
    entries.drop objects.pageSize, ?_, ?_, ?_⟩
  · -- The page and what is left behind it are all that is listed.
    rw [List.append_cons, ← split, List.take_append_drop]
  · rw [List.length_take]
    omega
  · -- More is listed than there is room for, so the page is marked with its last key.
    simp only [page, found, many, decide_true, if_true, split, List.getLast?_concat,
      Option.map_some]

section Walk

variable {σ : Type} (machine : Machine σ) (outside : σ)

/-- A page is fetched without a change. -/
theorem answer_listPage (token : Option String) :
    (store machine).answer (.listPage bucket keyPrefix token) (objects, outside) =
      (.ok (objects.page bucket keyPrefix token), objects, outside) := rfl

section Step

variable {next : Continuation} {token : Option String} (asked : next.request = some token)
  (count : Nat)

include asked

/-- A page that holds all that is left ends a walk. -/
theorem run_walk_last
    (few : (objects.matching bucket keyPrefix (token.getD "")).length ≤ objects.pageSize) :
    (Listing.walk (store machine) bucket keyPrefix (count + 1) next).run (objects, outside) =
      ⟨.nothing, (objects, outside), [⟨.listPage bucket keyPrefix token,
        .ok ⟨objects.matching bucket keyPrefix (token.getD ""), false, none⟩⟩]⟩ := by
  -- One fetch is made, and nothing is asked for behind it.
  rw [Listing.run_walk_page _ _ _ asked (answer_listPage machine outside token), page_of_few few]
  -- Nothing follows a page that is not cut short.
  have last : ListPage.continuation
      ⟨objects.matching bucket keyPrefix (token.getD ""), false, none⟩ = .nothing := rfl
  rw [last, Listing.walk_nothing]
  rfl

/-- A page that is cut short is followed by a walk behind its last key. -/
theorem run_walk_cut {before : List ObjectEntry} {last : ObjectEntry}
    (cut : objects.page bucket keyPrefix token = ⟨before ++ [last], true, some last.key⟩) :
    (Listing.walk (store machine) bucket keyPrefix (count + 1) next).run (objects, outside) =
      ((Listing.walk (store machine) bucket keyPrefix count (.after last.key)).run
        (objects, outside)).after
        [⟨.listPage bucket keyPrefix token, .ok ⟨before ++ [last], true, some last.key⟩⟩] := by
  -- One fetch is made, and its token is the last key of the page.
  rw [Listing.run_walk_page _ _ _ asked (answer_listPage machine outside token), cut]
  rfl

end Step

/-- A page whose token is empty is followed by itself, so fetching does not come to an end. -/
theorem walk_endless {rest : List ObjectEntry}
    (again : objects.page bucket keyPrefix (some "") = ⟨rest, true, some ""⟩) (count : Nat) :
    ((Listing.walk (store machine) bucket keyPrefix count (.after "")).run
      (objects, outside)).value ≠ .nothing := by
  -- The count only says how often the page is fetched.
  induction count with
  | zero => exact nofun
  -- The token of the page asks for the same page again.
  | succ count ih =>
    rw [Listing.run_walk_page _ _ _ rfl (answer_listPage machine outside (some "")), again]
    exact ih

/-- A walk that comes to the end brings all that is listed, without an error. -/
theorem walk_of_ended (positive : 0 < objects.pageSize) (count : Nat) {next : Continuation}
    {token : Option String} (asked : next.request = some token)
    (ended : ((Listing.walk (store machine) bucket keyPrefix count next).run
      (objects, outside)).value = .nothing) :
    itemsOf ((Listing.walk (store machine) bucket keyPrefix count next).run
        (objects, outside)).events = objects.matching bucket keyPrefix (token.getD "") ∧
      failureOf ((Listing.walk (store machine) bucket keyPrefix count next).run
        (objects, outside)).events = none := by
  -- Each page is the beginning of what is left, so the induction is on the pages.
  induction count generalizing next token with
  | zero =>
    rw [show next = .nothing from ended] at asked
    exact nomatch asked
  | succ count ih =>
    rcases Nat.lt_or_ge objects.pageSize
      (objects.matching bucket keyPrefix (token.getD "")).length with many | few
    · obtain ⟨before, last, rest, found, length, cut⟩ := page_of_many positive many
      rw [run_walk_cut machine outside asked count cut] at ended ⊢
      by_cases named : last.key = ""
      · -- Only from the start on is the empty key listed, so the token asks for this page again.
        have start : token.getD "" = "" :=
          objects.token_eq_empty bucket keyPrefix (by simp [found]) named
        have again : objects.page bucket keyPrefix (some "") =
            ⟨before ++ [last], true, some ""⟩ := by
          rw [← named, ← cut]
          simp only [page, named, start, Option.getD_some]
        rw [named] at ended
        exact absurd ended (walk_endless machine outside again count)
      · -- The pages behind this one bring what follows its last key.
        have asks : (Continuation.after last.key).request = some (some last.key) := rfl
        obtain ⟨items, failure⟩ := ih asks ended
        rw [Option.getD_some, objects.matching_behind bucket keyPrefix found named] at items
        refine ⟨?_, failure⟩
        exact (congrArg (before ++ [last] ++ ·) items).trans
          (found.trans (List.append_cons before last rest)).symm
    · -- The last page brings all that is left.
      rw [run_walk_last machine outside asked count few]
      exact ⟨List.append_nil _, rfl⟩

end Walk

/-- A machine without files, which a listing has no need of. -/
def bare : Machine Unit := Snapshot.machine (fun _ => .error .missing) (.ofParts 0 0)

end MemoryStore

end ObjectStorage
