import ObjectStorage.Proofs.Listing.Written
import ObjectStorage.Proofs.MemoryStore.Changes
import ObjectStorage.Proofs.MemoryStore.Pages
import ObjectStorage.Proofs.Text.ByteOrder

/-! The store in memory is a map in which the last write wins, and the program lists its keys. -/

namespace ObjectStorage

section Perform

variable {σ : Type} {store : Store σ} {console : Console} {fuel : Nat} {bucket : String}
  {keyPrefix : Option String} {state : σ}

/-- A listing that is not quiet goes to standard output, and one that is written to its end
succeeds. -/
theorem run_perform_list_ok {next : σ} {events : List Event} {count : Nat}
    (heard : console.style.quiet = false)
    (written : (writeListing store console.style.json fuel (.output console.room)
      (.start bucket (keyPrefix.getD "")) 0).run state = ⟨some (.ok count), next, events⟩) :
    (perform store console fuel (.list bucket keyPrefix)).run state =
      ⟨some .success, next, events⟩ := by
  -- The listing goes to standard output, and what it gives decides the status.
  simp only [perform, heard, Bool.false_eq_true, if_false, Session.run_bind, written,
    Session.run_pure, List.append_nil]

/-- The program ends only when its listing does. -/
theorem exists_of_perform_list {status : ExitStatus} (heard : console.style.quiet = false)
    (finished : ((perform store console fuel (.list bucket keyPrefix)).run state).value =
      some status) :
    ∃ result, ((writeListing store console.style.json fuel (.output console.room)
      (.start bucket (keyPrefix.getD "")) 0).run state).value = some result := by
  -- The status is made of the result of the listing, so there must be one.
  cases written : (writeListing store console.style.json fuel (.output console.room)
      (.start bucket (keyPrefix.getD "")) 0).run state with
  | mk value next events =>
    cases value with
    | some result => exact ⟨result, rfl⟩
    | none =>
      -- An unfinished listing leaves the program without a status.
      simp only [perform, heard, Bool.false_eq_true, if_false, Session.run_bind, written]
        at finished
      exact nomatch finished

end Perform

namespace MemoryStore

variable {σ : Type} (machine : Machine σ)

/-- Whenever the program lists keys that begin with a prefix, and has no error and no limit to its
output, it succeeds and prints the keys that are held, in the order of their bytes and each once. -/
def Lists (objects : MemoryStore) (held : ObjectRef → Option ByteArray) : Prop :=
  ∀ (bucket : String) (keyPrefix : Option String) (noColor : Bool) (fuel : Nat) (outside : σ)
    (status : ExitStatus),
    let outcome := (perform (store machine) ⟨⟨false, noColor, false⟩, none⟩ fuel
      (.list bucket keyPrefix)).run (objects, outside)
    outcome.value = some status →
      status = .success ∧ ∃ keys : List String,
        (keys.Pairwise fun earlier later => Text.utf8 earlier < Text.utf8 later) ∧
        (∀ key, key ∈ keys ↔ (held ⟨bucket, key⟩).isSome = true ∧
          (keyPrefix.getD "").toList <+: key.toList) ∧
        Event.standardOutput outcome.events = String.join (keys.map (· ++ "\n"))

/-- The program lists what the store holds. -/
theorem lists_get? {objects : MemoryStore} (positive : 0 < objects.pageSize) :
    Lists machine objects objects.get? := by
  -- The program ended, so its listing did, and it was written as it was walked.
  intro bucket keyPrefix noColor fuel outside status outcome finished
  obtain ⟨result, ceased⟩ := exists_of_perform_list rfl finished
  have written := written_of_finished (store machine) false fuel ceased
  cases done : (writeListing (store machine) false fuel (.output none)
      (.start bucket (keyPrefix.getD "")) 0).run (objects, outside) with
  | mk value next events =>
    change ((writeListing (store machine) false fuel (.output none) _ 0).run _).value = _ at ceased
    rw [done] at ceased written
    obtain ⟨⟨steps, walks⟩, output, counted⟩ := written
    change (Listing.walk _ bucket _ steps .first).run _ = _ at walks
    -- The listing was walked to its end, and so it brought all that matches.
    obtain ⟨items, fine⟩ := walk_of_ended machine outside positive steps rfl
      (congrArg Outcome.value walks)
    rw [walks] at items fine
    rw [fine] at counted
    rw [counted] at ceased
    -- No fetch fails in memory, so the program succeeds.
    have run : outcome = ⟨some .success, next, events⟩ :=
      run_perform_list_ok rfl (done.trans (by rw [show value = _ from ceased]; rfl))
    rw [run] at finished ⊢
    refine ⟨(Option.some.inj finished).symm,
      (objects.matching bucket (keyPrefix.getD "") "").map ObjectEntry.key, ?_, ?_, ?_⟩
    · -- The order of the keys is that of their bytes.
      have ascending := objects.ascending_matching bucket (keyPrefix.getD "") ""
      exact List.pairwise_map.mpr (ascending.imp fun less => Text.utf8_lt less)
    · exact objects.mem_matching_iff bucket (keyPrefix.getD "")
    · -- Without JSON the line of an entry is its key.
      rw [show Event.standardOutput events = _ from output, items, List.map_map]
      rfl

example (outside : σ) :
    let objects := ((empty 1).insert ⟨"bucket", "b"⟩ .empty).insert ⟨"bucket", "a"⟩ .empty
    let outcome := (perform (store machine) ⟨{}, none⟩ 3 (.list "bucket" none)).run
      (objects, outside)
    outcome.value = some .success ∧ Event.standardOutput outcome.events = "a\nb\n" :=
  ⟨rfl, rfl⟩

/-- The store in memory is a map in which the last write wins: after any changes to an empty store
it holds of each object what was last written, if it was not removed since, and it has as many
objects as that map. A file that cannot be read and the deletion of what is not there change
nothing, no change is seen under another name, and whatever the size of pages, a listing that ends
prints just the keys that are held. -/
theorem refines_last_write_wins (pageSize : Nat) (changes : List Change) (outside : σ) :
    let objects := (carryOutAll machine changes (empty pageSize, outside)).1
    let held := lastWritten (deeds machine changes outside)
    objects.Refines held ∧ Steady machine objects ∧ Lists machine objects held := by
  -- What the store holds and how single changes go is known; the listing is left.
  intro objects held
  have refines : objects.Refines held := refines_lastWritten machine pageSize changes outside
  -- Changes leave the size of pages alone, and it was at least one.
  have positive : 0 < objects.pageSize := by
    rw [show objects.pageSize = _ from pageSize_carryOutAll machine changes _]
    exact Nat.lt_of_lt_of_le Nat.one_pos (Nat.le_max_right pageSize 1)
  refine ⟨refines, steady machine objects, ?_⟩
  -- What is held is what was last written, so the keys of the one are those of the other.
  rw [← show objects.get? = held from funext refines.get]
  exact lists_get? machine positive

end MemoryStore

end ObjectStorage
