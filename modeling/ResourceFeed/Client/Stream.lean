import ResourceFeed.Client.Reading

/-! # Streams of items

    A feed is read page by page and only as far as it is asked for.  A cursor
    holds the entries of the current page that are left and the address of the
    next page.  One *step* of a cursor converts the next entry, or fetches the
    next page if no entry is left, or finds that the feed is at its end.  The
    first failure ends the reading, and a cursor that has ended stays so.

    A *poll* takes steps until there is an item, a failure or the end.  A feed
    may link pages without entries for ever, so a poll is given the number of
    steps after which it returns without having decided.
-/

namespace ResourceFeed

/-- How far a feed has been read. -/
structure Cursor where
  /-- The entries of the current page that are left. -/
  pending : List Entry
  /-- The address of the next page. -/
  next : Option String
  /-- Whether the reading has ended. -/
  ended : Bool

/-- A request for a page or a resource. -/
def Request.read (url : String) : Request :=
  ⟨.get, url, mediaType, none, none⟩

/-- The response, if its status means success. -/
def Response.accepted (response : Response) : Except Failure Response :=
  if response.isSuccess then .ok response
  else .error (.transport response.status response.text)

namespace Cursor

/-- A cursor before the first page. -/
def start (url : String) : Cursor :=
  ⟨[], some url, false⟩

/-- A cursor that has ended. -/
def finished : Cursor :=
  ⟨[], none, true⟩

/-- A cursor on a page.  A page that names itself as the next one is the last. -/
def onPage (url : String) (page : Page) : Cursor :=
  ⟨page.entries, if page.next = some url then none else page.next, false⟩

/-- Fetches a page. -/
def fetch [Peer σ] (url : String) : Exchange σ Page := do
  let response ← Exchange.send (Request.read url)
  let response ← Exchange.ofExcept response.accepted
  Exchange.ofExcept (Page.decode response.body url)

/-- What one step of a cursor brought. -/
inductive Progress (α : Type) where
  | item (value : α)
  | failed (failure : Failure)
  /-- A page was fetched. -/
  | fetched
  | ended

/-- One step of a cursor. -/
def step [Peer σ] (convert : Conversion α) (cursor : Cursor) (link : Link σ) :
    Progress α × Cursor × Link σ :=
  if cursor.ended then (.ended, finished, link)
  else match cursor.pending with
    | entry :: rest =>
      let (run, versions) := convert entry link.versions
      let link := { link with versions := versions, events := link.events ++ run.events }
      match run.outcome with
      | .ok value => (.item value, { cursor with pending := rest }, link)
      | .error failure => (.failed failure, finished, link)
    | [] =>
      match cursor.next with
      | none => (.ended, finished, link)
      | some url =>
        match (fetch url).runOn link with
        | (.ok page, link) => (.fetched, onPage url page, link)
        | (.error failure, link) => (.failed failure, finished, link)

/-- What a poll brought. -/
inductive Poll (α : Type) where
  | item (value : α)
  | failed (failure : Failure)
  | ended
  /-- All steps were spent on fetching pages. -/
  | undecided

/-- A poll with a function applied to its item. -/
def Poll.map (f : α → β) : Poll α → Poll β
  | .item value => .item (f value)
  | .failed failure => .failed failure
  | .ended => .ended
  | .undecided => .undecided

/-- Takes up to `patience` steps until there is an item, a failure or the end. -/
def poll [Peer σ] (convert : Conversion α) (cursor : Cursor) (link : Link σ) :
    Nat → Poll α × Cursor × Link σ
  | 0 => (.undecided, cursor, link)
  | patience + 1 =>
    match step convert cursor link with
    | (.item value, cursor, link) => (.item value, cursor, link)
    | (.failed failure, cursor, link) => (.failed failure, cursor, link)
    | (.ended, cursor, link) => (.ended, cursor, link)
    | (.fetched, cursor, link) => poll convert cursor link patience

/-- What reading on brought: the items, and why it stopped. -/
structure Collected (α : Type) where
  items : List α
  /-- The failure that ended the reading. -/
  failure : Option Failure
  /-- Whether the reading stopped for want of patience. -/
  undecided : Bool

/-- What was collected with a function applied to the items. -/
def Collected.map (f : α → β) (collected : Collected α) : Collected β :=
  ⟨collected.items.map f, collected.failure, collected.undecided⟩

/-- Takes up to `patience` steps until there are `limit` items, a failure or the end; without a
    limit only a failure or the end stops it. -/
def collect [Peer σ] (convert : Conversion α) (cursor : Cursor) (link : Link σ)
    (limit : Option Nat) : Nat → Collected α × Link σ
  | 0 => (⟨[], none, true⟩, link)
  | patience + 1 =>
    if limit = some 0 then (⟨[], none, false⟩, link)
    else match step convert cursor link with
      | (.item value, cursor, link) =>
        let (collected, link) := collect convert cursor link (limit.map (· - 1)) patience
        ({ collected with items := value :: collected.items }, link)
      | (.failed failure, _, link) => (⟨[], some failure, false⟩, link)
      | (.ended, _, link) => (⟨[], none, false⟩, link)
      | (.fetched, cursor, link) => collect convert cursor link limit patience

end Cursor

end ResourceFeed
