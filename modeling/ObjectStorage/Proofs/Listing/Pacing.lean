import ObjectStorage.Proofs.Listing.Written

/-! A listing writes the line of every entry behind the fetch of its page and before it asks for the
next page. -/

namespace ObjectStorage

variable {σ : Type} (store : Store σ) (json : Bool)

/-- A trace in which every line is written in time, where the lines of some entries are still due. A
fetch makes the lines of its page due, and none may be due when a page is fetched. -/
inductive Paced : List ObjectEntry → List Event → Prop
  /-- A listing may stop at any time. -/
  | stopped (due : List ObjectEntry) : Paced due []
  | wrote (entry : ObjectEntry) {due : List ObjectEntry} (accepted : Bool) {rest : List Event}
    (onward : Paced due rest) :
    Paced (entry :: due) (.wrote (entry.line json) accepted :: rest)
  | fetched (exchange : Exchange) {rest : List Event} (onward : Paced exchange.items rest) :
    Paced [] (.called exchange :: rest)

/-- Fetches that bring no entries may stand in front of any trace where nothing is due. -/
theorem paced_called_append {made : List Exchange} {rest : List Event}
    (nothing : itemsOf made = []) (onward : Paced json [] rest) :
    Paced json [] (made.map .called ++ rest) := by
  -- The fetches are taken one by one, and none of them makes a line due.
  induction made with
  | nil => exact onward
  | cons exchange made ih =>
    -- The page of the first fetch is empty, so nothing is due behind it.
    obtain ⟨empty, others⟩ := List.append_eq_nil_iff.mp nothing
    refine .fetched exchange ?_
    rw [empty]
    exact ih others

/-- The line of an entry is due when the entry is handed out, and the entries that wait are due
behind it. -/
theorem Listing.Pulls.paced_entry {fetches : Nat} {listing after : Listing} {made : List Exchange}
    {entry : ObjectEntry} (pulls : Pulls fetches listing made (.entry entry) after)
    {rest : List Event} (onward : Paced json (entry :: after.pending) rest) :
    Paced json listing.pending (made.map .called ++ rest) := by
  -- The entry waited already, or it is the first of the last page.
  cases pulls with
  | waiting pending => rwa [pending]
  | @fetched empty exchange _ others drained _ passed found =>
    -- The pages before the last are empty, and the last makes its entries due.
    have last : Paced json [] (.called exchange :: rest) := .fetched exchange (by rwa [found])
    rw [drained, List.map_append, List.append_assoc]
    exact paced_called_append json (nothing_of_passed passed).1 last

/-- A listing that hands out no entry has none left. -/
theorem Listing.Pulls.nothing {fetches : Nat} {listing after : Listing} {made : List Exchange}
    {pulled : Pulled} (pulls : Pulls fetches listing made pulled after)
    (none : ∀ entry, pulled ≠ .entry entry) :
    listing.pending = [] ∧ itemsOf made = [] := by
  -- Of the ways to pull, those that hand out an entry are excluded.
  cases pulls with
  | waiting pending => exact absurd rfl (none _)
  | fetched drained onward passed found => exact absurd rfl (none _)
  | failed drained onward passed failure =>
    have items := Exchange.items_eq_nil failure
    exact ⟨drained, by simp [nothing_of_passed passed, items]⟩
  | ended drained nothing fine => exact ⟨drained, nothing⟩
  | exhausted drained onward passed further many => exact ⟨drained, (nothing_of_passed passed).1⟩

/-- Every listing that is written to standard output is paced, wherever it stops. -/
theorem paced_writeListing (fuel : Nat) (room : Option Nat) (listing : Listing) (count : Nat)
    (state : σ) :
    Paced json listing.pending
      ((writeListing store json fuel (.output room) listing count).run state).events := by
  -- Every entry costs fuel, so the induction is on the fuel, for a listing in any condition.
  induction fuel generalizing room listing count state with
  | zero => exact .stopped _
  | succ fuel ih =>
    have pulls := (Listing.pulling_pull store fuel listing state).pulls
    cases pulled : (listing.pull store fuel).run state with
    | mk value next made =>
      obtain ⟨answer, after⟩ := value
      rw [pulled] at pulls
      by_cases handed : ∃ entry, answer = .entry entry
      · obtain ⟨entry, rfl⟩ := handed
        rcases room with _ | _ | room
        · -- A line that is taken is written in time, and so is the rest.
          rw [run_writeListing_offer store json pulled rfl]
          simp only [Outcome.after, List.append_assoc, Option.elim_some]
          exact pulls.paced_entry json (.wrote entry true (ih none after (count + 1) next))
        · -- A line that is not taken is the last that is written.
          rw [run_writeListing_offer store json pulled rfl]
          simp only [Outcome.after, List.append_assoc, Option.elim_none]
          exact pulls.paced_entry json (.wrote entry false (.stopped _))
        · rw [run_writeListing_offer store json pulled rfl]
          simp only [Outcome.after, List.append_assoc, Option.elim_some]
          exact pulls.paced_entry json (.wrote entry true (ih (some room) after (count + 1) next))
      · -- Nothing is due any more, and nothing is written.
        have ceased := not_exists.mp handed
        obtain ⟨drained, nothing⟩ := pulls.nothing ceased
        rw [run_writeListing_ceased store json pulled ceased, drained,
          ← List.append_nil (made.map Event.called)]
        exact paced_called_append json nothing (.stopped [])

end ObjectStorage
