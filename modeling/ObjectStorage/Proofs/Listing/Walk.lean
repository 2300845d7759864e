import Mathlib.Data.List.Chain
import ObjectStorage.Listing

/-! The pages of a listing, fetched one after another: each is asked for with the token of the page
before it, and none is asked for behind a page without one. -/

namespace ObjectStorage

namespace Exchange

/-- The page that an exchange brought, if it did. -/
def page? : Exchange → Option ListPage
  | ⟨.listPage _ _ _, .ok page⟩ => some page
  | _ => none

/-- The error that an exchange met, if it did. -/
def failure? : Exchange → Option StorageError
  | ⟨_, .error error⟩ => some error
  | _ => none

/-- The entries that an exchange brought. -/
def items (exchange : Exchange) : List ObjectEntry := exchange.page?.elim [] ListPage.items

/-- What a listing does after an exchange. -/
def continuation (exchange : Exchange) : Continuation :=
  exchange.page?.elim .nothing ListPage.continuation

end Exchange

/-- The entries of all pages that exchanges brought, in order. -/
def itemsOf (made : List Exchange) : List ObjectEntry := made.flatMap Exchange.items

/-- The error that exchanges met, if they did. -/
def failureOf (made : List Exchange) : Option StorageError := made.findSome? Exchange.failure?

/-- The entries of exchanges that follow one another. -/
@[simp] theorem itemsOf_append (earlier later : List Exchange) :
    itemsOf (earlier ++ later) = itemsOf earlier ++ itemsOf later :=
  List.flatMap_append

/-- The entries of an exchange and those that follow it. -/
@[simp] theorem itemsOf_cons (exchange : Exchange) (later : List Exchange) :
    itemsOf (exchange :: later) = exchange.items ++ itemsOf later := rfl

/-- No exchange brings no entries. -/
@[simp] theorem itemsOf_nil : itemsOf [] = [] := rfl

/-- The error of exchanges that follow one another is the first. -/
@[simp] theorem failureOf_append (earlier later : List Exchange) :
    failureOf (earlier ++ later) = (failureOf earlier).or (failureOf later) :=
  List.findSome?_append

/-- The error of an exchange, or of those that follow it. -/
@[simp] theorem failureOf_cons (exchange : Exchange) (later : List Exchange) :
    failureOf (exchange :: later) = exchange.failure?.or (failureOf later) := by
  -- The search looks at the first exchange before all others.
  rw [failureOf, List.findSome?_cons, failureOf]
  cases exchange.failure? <;> rfl

/-- No exchange meets no error. -/
@[simp] theorem failureOf_nil : failureOf [] = none := rfl

/-- Only a page that is cut short and carries a token is followed by another. -/
theorem ListPage.continuation_eq_after {page : ListPage} {token : String} :
    page.continuation = .after token ↔ page.truncated = true ∧ page.token = some token := by
  -- Of the four combinations of mark and token only one leads on.
  rcases page with ⟨items, _ | _, _ | found⟩ <;> simp [continuation]

/-- An exchange that another follows brought a page that is cut short and carries a token, and the
other asks for the next page with just this token. -/
def Continues (bucket keyPrefix : String) (earlier later : Exchange) : Prop :=
  ∃ page token, earlier.page? = some page ∧ page.truncated = true ∧ page.token = some token ∧
    later.call = .listPage bucket keyPrefix (some token)

namespace Listing

/-- How fetching goes from one continuation to another. -/
inductive Walked (bucket keyPrefix : String) : Continuation → List Exchange → Continuation → Prop
  /-- Nothing is fetched. -/
  | still (next : Continuation) : Walked bucket keyPrefix next [] next
  /-- A page is fetched, and perhaps others behind it. -/
  | page {next last : Continuation} {token : Option String} (page : ListPage)
    {rest : List Exchange} (asked : next.request = some token)
    (onward : Walked bucket keyPrefix page.continuation rest last) :
    Walked bucket keyPrefix next (⟨.listPage bucket keyPrefix token, .ok page⟩ :: rest) last
  /-- A fetch fails, and it is the last. -/
  | failed {next : Continuation} {token : Option String} (error : StorageError)
    (asked : next.request = some token) :
    Walked bucket keyPrefix next [⟨.listPage bucket keyPrefix token, .error error⟩] .nothing

section Walked

variable {bucket keyPrefix : String} {start middle last : Continuation}
  {made earlier later : List Exchange}

/-- Where no page follows, nothing is fetched. -/
theorem Walked.of_nothing (walked : Walked bucket keyPrefix .nothing made last) :
    made = [] ∧ last = .nothing := by
  cases walked with
  | still => exact ⟨rfl, rfl⟩
  -- Every fetch needs a token to ask with.
  | page page impossible onward => exact nomatch impossible
  | failed error impossible => exact nomatch impossible

/-- Fetching goes on where it stopped. -/
theorem Walked.trans (one : Walked bucket keyPrefix start earlier middle)
    (other : Walked bucket keyPrefix middle later last) :
    Walked bucket keyPrefix start (earlier ++ later) last := by
  -- The second part stands behind the first, so the induction is on the first.
  induction one with
  | still next => exact other
  | page page asked onward ih => exact .page page asked (ih other)
  | failed error asked =>
    -- Behind a failure there is nothing to go on with.
    obtain ⟨rfl, rfl⟩ := other.of_nothing
    exact .failed error asked

/-- The first fetch asks for what was to be asked for. -/
theorem Walked.head (walked : Walked bucket keyPrefix start made last) :
    ∀ exchange ∈ made.head?, ∃ token, start.request = some token ∧
      exchange.call = .listPage bucket keyPrefix token := by
  -- Nothing was fetched, or a page, or a failure, and both of these were asked for.
  cases walked with
  | still => simp
  | page page asked onward => simpa using asked
  | failed error asked => simpa using asked

/-- All that is fetched are pages of the same keys. -/
theorem Walked.calls (walked : Walked bucket keyPrefix start made last) :
    ∀ exchange ∈ made, ∃ token, exchange.call = .listPage bucket keyPrefix token := by
  -- Tokens differ from fetch to fetch, but the keys that are asked for do not.
  induction walked with
  | still => exact List.forall_mem_nil _
  | page page asked onward ih => exact List.forall_mem_cons.mpr ⟨⟨_, rfl⟩, ih⟩
  | failed error asked => exact List.forall_mem_singleton.mpr ⟨_, rfl⟩

/-- Every fetch but the first asks with the token of the page before it. -/
theorem Walked.chain (walked : Walked bucket keyPrefix start made last) :
    made.IsChain (Continues bucket keyPrefix) := by
  -- The induction goes from each page to the fetches behind it.
  induction walked with
  | still => exact .nil
  | failed error asked => exact .singleton _
  | page page asked onward ih =>
    -- Only the fetch behind this page has to be looked at.
    refine List.isChain_cons.mpr ⟨fun exchange head => ?_, ih⟩
    obtain ⟨token, follows, call⟩ := onward.head exchange head
    -- The page has a continuation to ask for, and that is never the first page.
    obtain ⟨found, after, rfl⟩ :
        ∃ found, page.continuation = .after found ∧ token = some found := by
      rcases page with ⟨items, _ | _, _ | found⟩
      · exact nomatch follows
      · exact nomatch follows
      · exact nomatch follows
      · exact ⟨found, rfl, (Option.some.inj follows).symm⟩
    obtain ⟨truncated, carried⟩ := ListPage.continuation_eq_after.mp after
    exact ⟨page, found, rfl, truncated, carried, call⟩

/-- What a listing does next is decided by the last fetch. -/
theorem Walked.last_eq (walked : Walked bucket keyPrefix start made last) :
    last = made.getLast?.elim start Exchange.continuation := by
  -- Without a fetch it is what it was.
  induction walked with
  | still => rfl
  | failed error asked => rfl
  | @page _ _ _ page rest asked onward ih =>
    -- The last fetch behind a page is the last of all, and the page itself if there is none.
    rw [ih]
    cases rest <;> rfl

/-- A fetch that failed is the last. -/
theorem Walked.failureOf_eq_none (walked : Walked bucket keyPrefix start made last)
    (onward : last ≠ .nothing) : failureOf made = none := by
  -- A failure stands at the end if anywhere.
  induction walked with
  | still => rfl
  -- A failure would have left nothing to ask for.
  | failed error asked => exact absurd rfl onward
  | page page asked rest ih => exact ih onward

/-- The fetch that failed stands behind all others. -/
theorem Walked.exists_last {error : StorageError} (walked : Walked bucket keyPrefix start made last)
    (failure : failureOf made = some error) :
    ∃ earlier exchange, made = earlier ++ [exchange] ∧ failureOf earlier = none ∧
      exchange.failure? = some error := by
  -- The induction goes over the pages in front of it.
  induction walked with
  | still => exact nomatch failure
  | failed met asked => exact ⟨[], _, rfl, rfl, failure⟩
  | page page asked onward ih =>
    -- The page that was fetched is no failure, so the failure is behind it.
    obtain ⟨earlier, exchange, rfl, fine, met⟩ := ih failure
    exact ⟨_ :: earlier, exchange, rfl, fine, met⟩

end Walked

/-- Fetches pages one after another, as many as there are but `count` at most. -/
def walk {σ : Type} (store : Store σ) (bucket keyPrefix : String) :
    Nat → Continuation → Session Exchange σ Continuation
  | 0, next => pure next
  | count + 1, next =>
    match next.request with
    | none => pure next
    | some token => do
      match ← store.listPage bucket keyPrefix token with
      | .error _ => return .nothing
      | .ok page => walk store bucket keyPrefix count page.continuation

section Walk

variable {σ : Type} (store : Store σ) (bucket keyPrefix : String)

/-- Where no page follows, a walk stands still. -/
theorem walk_nothing (count : Nat) :
    walk store bucket keyPrefix count .nothing = pure .nothing := by
  -- There is no request to make, whatever the count.
  cases count <;> rfl

/-- A page that a walk fetches is followed by the rest of the walk. -/
theorem run_walk_page {next : Continuation} {token : Option String} {state after : σ}
    {page : ListPage} (asked : next.request = some token)
    (answered : store.answer (.listPage bucket keyPrefix token) state = (.ok page, after))
    (count : Nat) :
    (walk store bucket keyPrefix (count + 1) next).run state =
      ((walk store bucket keyPrefix count page.continuation).run after).after
        [⟨.listPage bucket keyPrefix token, .ok page⟩] := by
  -- The answer is known, so the walk goes on from there.
  simp only [walk, asked]
  exact store.run_ask_bind Exchange.mk answered _

/-- A fetch that fails ends a walk. -/
theorem run_walk_failed {next : Continuation} {token : Option String} {state after : σ}
    {error : StorageError} (asked : next.request = some token)
    (answered : store.answer (.listPage bucket keyPrefix token) state = (.error error, after))
    (count : Nat) :
    (walk store bucket keyPrefix (count + 1) next).run state =
      ⟨.nothing, after, [⟨.listPage bucket keyPrefix token, .error error⟩]⟩ := by
  -- The answer is known, and the walk does not look further.
  simp only [walk, asked]
  exact store.run_ask_bind Exchange.mk answered _

/-- A walk fetches as a listing does. -/
theorem walked_walk (count : Nat) (next : Continuation) (state : σ) :
    Walked bucket keyPrefix next ((walk store bucket keyPrefix count next).run state).events
      ((walk store bucket keyPrefix count next).run state).value := by
  -- The induction is on the fetches left, for any continuation in any state.
  induction count generalizing next state with
  | zero => exact .still next
  | succ count ih =>
    cases asked : next.request with
    | none =>
      simp only [walk, asked]
      exact .still next
    -- A token is asked with, and the answer decides which step it is.
    | some token =>
      cases answered : store.answer (.listPage bucket keyPrefix token) state with
      | mk answer after =>
        cases answer with
        | error error =>
          rw [run_walk_failed store bucket keyPrefix asked answered]
          exact .failed error asked
        | ok page =>
          rw [run_walk_page store bucket keyPrefix asked answered]
          exact .page page asked (ih page.continuation after)

/-- A walk goes on where it stopped. -/
theorem walk_add (count more : Nat) (next : Continuation) :
    walk store bucket keyPrefix (count + more) next =
      walk store bucket keyPrefix count next >>= walk store bucket keyPrefix more := by
  -- Both walks begin with the same fetch, if there is one.
  induction count generalizing next with
  | zero => simp [walk]
  | succ count ih =>
    rw [Nat.add_right_comm]
    cases asked : next.request with
    | none =>
      -- A walk that has nothing to ask for stands still, however long it may be.
      have still : ∀ count, walk store bucket keyPrefix count next = pure next := by
        intro count
        cases count with
        | zero => rfl
        | succ count => simp only [walk, asked]
      simp [still]
    | some token =>
      simp only [walk, asked, bind_assoc]
      refine bind_congr fun answer => ?_
      cases answer with
      -- Behind a failure the second walk stands still.
      | error error => simp [walk_nothing]
      | ok page => exact ih page.continuation

/-- A walk fetches no more pages than it may. -/
theorem length_walk_le (count : Nat) (next : Continuation) (state : σ) :
    ((walk store bucket keyPrefix count next).run state).events.length ≤ count := by
  -- Each fetch is paid for with one of those that are left.
  induction count generalizing next state with
  | zero => exact Nat.le_refl 0
  | succ count ih =>
    cases asked : next.request with
    | none =>
      simp only [walk, asked]
      exact Nat.zero_le _
    -- One fetch is made now, and the rest of the walk makes no more than are left.
    | some token =>
      cases answered : store.answer (.listPage bucket keyPrefix token) state with
      | mk answer after =>
        cases answer with
        | error error =>
          rw [run_walk_failed store bucket keyPrefix asked answered]
          exact Nat.le_add_left 1 count
        | ok page =>
          rw [run_walk_page store bucket keyPrefix asked answered]
          exact Nat.succ_le_succ (ih page.continuation after)

/-- A walk that came to the end does not go on behind it. -/
theorem run_walk_of_le {count other : Nat} {next : Continuation} {state : σ}
    (ended : ((walk store bucket keyPrefix count next).run state).value = .nothing)
    (longer : count ≤ other) :
    (walk store bucket keyPrefix other next).run state =
      (walk store bucket keyPrefix count next).run state := by
  -- What is left of the longer walk stands still.
  obtain ⟨more, rfl⟩ := Nat.exists_eq_add_of_le longer
  rw [walk_add, Session.run_bind, ended, walk_nothing]
  simp [← ended]

/-- A walk that came to the end fetched all that any walk fetches. -/
theorem walk_prefix {count : Nat} {next : Continuation} {state : σ}
    (ended : ((walk store bucket keyPrefix count next).run state).value = .nothing) (other : Nat) :
    ((walk store bucket keyPrefix other next).run state).events <+:
      ((walk store bucket keyPrefix count next).run state).events := by
  rcases Nat.le_total count other with shorter | longer
  · -- A walk does not go on behind the end.
    have same := run_walk_of_le store bucket keyPrefix ended shorter
    exact congrArg Outcome.events same ▸ List.prefix_rfl
  · -- The longer walk begins with the shorter one.
    obtain ⟨more, rfl⟩ := Nat.exists_eq_add_of_le longer
    rw [walk_add, Session.run_bind]
    exact List.prefix_append _ _

/-- Behind any beginning of a walk that came to the end, the walk comes to the same end. -/
theorem walk_rest {count steps : Nat} {next middle : Continuation} {state between last : σ}
    {made all : List Exchange}
    (ended : (walk store bucket keyPrefix count next).run state = ⟨.nothing, last, all⟩)
    (begun : (walk store bucket keyPrefix steps next).run state = ⟨middle, between, made⟩) :
    ∃ rest, all = made ++ rest ∧
      (walk store bucket keyPrefix count middle).run between = ⟨.nothing, last, rest⟩ := by
  -- The longer walk is the walk to the end, and then it stands still.
  have whole : (walk store bucket keyPrefix (steps + count) next).run state =
      ⟨.nothing, last, all⟩ :=
    (run_walk_of_le store bucket keyPrefix (congrArg Outcome.value ended)
      (Nat.le_add_left count steps)).trans ended
  -- It is also the beginning and what comes behind it.
  rw [walk_add, Session.run_bind, begun] at whole
  obtain ⟨value, state, events⟩ := Outcome.mk.inj whole
  refine ⟨_, events.symm, ?_⟩
  rw [← value, ← state]

end Walk

end Listing

end ObjectStorage
