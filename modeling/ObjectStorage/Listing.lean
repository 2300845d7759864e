import ObjectStorage.Store

/-! Listings that span pages: entries are handed out one by one, and a page is fetched only when all
entries before it are gone. -/

namespace ObjectStorage

/-- What a listing does when its entries have run out. -/
inductive Continuation where
  /-- Fetch the first page. -/
  | first
  /-- Fetch the page that a token stands for. -/
  | after (token : String)
  /-- Nothing: the last page is used up, or a fetch has failed. -/
  | nothing
  deriving DecidableEq

/-- The token to fetch the next page with, or `none` when no page follows. -/
def Continuation.request : Continuation → Option (Option String)
  | .first => some none
  | .after token => some (some token)
  | .nothing => none

/-- The pages behind a page: one only if the page is cut short and carries a token. -/
def ListPage.continuation (page : ListPage) : Continuation :=
  match page.truncated, page.token with
  | true, some token => .after token
  | _, _ => .nothing

/-- A listing of the keys in a bucket that start with a prefix. -/
structure Listing where
  bucket : String
  keyPrefix : String
  /-- Entries that were fetched but not handed out. -/
  pending : List ObjectEntry
  /-- What comes after the pending entries. -/
  next : Continuation

/-- What a listing gives when it is asked for one more entry. -/
inductive Pulled where
  | entry (entry : ObjectEntry)
  | failed (error : StorageError)
  /-- No entry is left, and none will follow. -/
  | ended
  /-- Too many pages in a row were empty. -/
  | exhausted

namespace Listing

/-- A listing before its first fetch. -/
def start (bucket keyPrefix : String) : Listing := ⟨bucket, keyPrefix, [], .first⟩

/-- A listing that has just received a page. -/
def receive (listing : Listing) (page : ListPage) : Listing :=
  { listing with pending := page.items, next := page.continuation }

/-- A listing that will fetch nothing any more. -/
def close (listing : Listing) : Listing := { listing with pending := [], next := .nothing }

variable {σ : Type}

/-- Asks for one more entry, fetching at most `fetches` pages. After a failure nothing follows. -/
def pull (store : Store σ) : Nat → Listing → Session Exchange σ (Pulled × Listing)
  | fetches, listing =>
    match listing.pending with
    | entry :: rest => pure (.entry entry, { listing with pending := rest })
    | [] =>
      match listing.next.request with
      | none => pure (.ended, listing)
      | some token =>
        match fetches with
        | 0 => pure (.exhausted, listing)
        | fetches + 1 => do
          -- A page without entries leads on to the next page at once.
          match ← store.listPage listing.bucket listing.keyPrefix token with
          | .error error => return (.failed error, listing.close)
          | .ok page => pull store fetches (listing.receive page)

/-- What one pull gave, with the calls that it made. -/
structure Sample where
  pulled : Pulled
  exchanges : List Exchange

/-- Pulls until `count` entries or failures came or the listing ended; the end, if it was seen, is
the last sample. -/
def samples (store : Store σ) (fetches : Nat) : Nat → Listing → σ → List Sample × σ
  | 0, _, state => ([], state)
  | count + 1, listing, state =>
    let outcome := (listing.pull store fetches).run state
    let sample : Sample := ⟨outcome.value.1, outcome.events⟩
    match outcome.value.1 with
    -- A failure is no end yet: only the pull behind it tells of the end.
    | .entry _ | .failed _ =>
      let others := samples store fetches count outcome.value.2 outcome.state
      (sample :: others.1, others.2)
    | .ended | .exhausted => ([sample], outcome.state)

end Listing

end ObjectStorage
