import ResourceFeed.Client.Feed
import ResourceFeed.Client.InPlace
import ResourceFeed.Client.Recording
import ResourceFeed.Client.Seat

/-! # Sessions

    A session is several clients in one program.  They talk to one peer; each
    has a version store of its own, or else shares the common one.  The
    program keeps tracked entities and opened feeds under names, and acts on
    them one action after the other.

    An operation on a named entity works on it in place, so that the name
    holds what the operation leaves there, whether it succeeds or not.
-/

namespace ResourceFeed

/-- The state of a program with several clients. -/
structure Session (σ : Type) where
  seats : List Seat
  stores : List VersionStore
  peer : σ
  entities : Members Tracked
  /-- Opened feeds with the client that opened them. -/
  feeds : Members (Nat × Feed)

/-- The version store that a client brings with it. -/
inductive StoreChoice where
  /-- One of its own if the settings bound it, or else the common store. -/
  | settings
  /-- A store of its own. -/
  | own (capacity : Option Nat)

/-- What a program does with its clients, entities and feeds. -/
inductive Action where
  | create (client : Nat) (slot : String) (type : EntityType)
  | get (client : Nat) (slot : String) (type : EntityType) (id : String)
  | set (slot field : String) (raw : Json)
  | perform (operation : Operation) (client : Nat) (slot : String)
  | showEntity (slot : String)
  | diagnose (slot : String)
  | fetchAll (client : Nat) (type : EntityType) (clauses : List Clause)
  /-- Opens a feed under a name; values may be asked for in a shape. -/
  | openFeed (client : Nat) (name : String) (type : EntityType) (clauses : List Clause)
      (shape : Option Shape)
  /-- Takes the next item of a feed; an entity may be put under a name. -/
  | next (name : String) (slot : Option String)
  | queryUrl (client : Nat) (type : EntityType) (clauses : List Clause)
  | versionGet (client : Nat) (identity : Identity)
  | versionSet (client : Nat) (identity : Identity) (token : String)
  | versionRemove (client : Nat) (identity : Identity)
  | versionCount (client : Nat)

/-- The answer to an action. -/
inductive Reply where
  | done (outcome : Except Failure Unit)
  | shown
  | text (outcome : Except Failure String)
  | items (outcome : Except Failure (List FeedItem))
  | item (outcome : Except Failure FeedItem)
  | endOfFeed
  /-- The feed spent all its steps on pages without entries. -/
  | undecided
  | token (token : Option String)
  | count (count : Nat)
  | noEntity
  | noFeed
  | noField
  | noClient

/-- An answer with the requests and the host events on the way to it, and the entity it is
    about. -/
structure Report where
  reply : Reply
  requests : List Request
  events : List Event
  entity : Option Tracked

namespace Report

/-- An answer without requests and events. -/
def plain (reply : Reply) (entity : Option Tracked) : Report :=
  ⟨reply, [], [], entity⟩

end Report

namespace Session

variable {σ : Type}

/-- A session without clients, whose common store is empty. -/
def start (peer : σ) : Session σ :=
  ⟨[], [VersionStore.empty none], peer, [], []⟩

/-- Adds a client with the store that it brings. -/
def join (session : Session σ) (client : Client) (choice : StoreChoice) : Session σ :=
  let free := session.stores.length
  let seat := Seat.ofSettings client free
  match choice, client.settings.tokenCapacity with
  | .own capacity, _ =>
    { session with
      seats := session.seats ++ [seat.withStore free]
      stores := session.stores ++ [VersionStore.empty capacity] }
  | .settings, some capacity =>
    { session with
      seats := session.seats ++ [seat]
      stores := session.stores ++ [VersionStore.empty (some capacity)] }
  | .settings, none => { session with seats := session.seats ++ [seat] }

/-- The link with the store at a place. -/
def link (session : Session σ) (store : Nat) : Link σ :=
  ⟨session.stores.getD store (VersionStore.empty none), session.peer, [], []⟩

/-- The session after work on the link with the store at a place. -/
def afterLink (session : Session σ) (store : Nat) (link : Link σ) : Session σ :=
  { session with
    stores := session.stores.set store link.versions
    peer := link.peer }

/-- Puts an entity under a name. -/
def keep (session : Session σ) (slot : String) (tracked : Tracked) : Session σ :=
  { session with entities := Members.insert slot tracked session.entities }

/-- The entity under a name. -/
def entity? (session : Session σ) (slot : String) : Option Tracked :=
  Members.get? slot session.entities

/-- Puts an opened feed under a name. -/
def keepFeed (session : Session σ) (name : String) (client : Nat) (feed : Feed) : Session σ :=
  { session with feeds := Members.insert name (client, feed) session.feeds }

/-- Acts with a client. -/
def withSeat (session : Session σ) (client : Nat)
    (act : Seat → Report × Session σ) : Report × Session σ :=
  match session.seats[client]? with
  | some seat => act seat
  | none => (.plain .noClient none, session)

/-- Reads an entity, and puts it under a name. -/
def receive (session : Session σ) (seat : Seat) (slot : String)
    (reading : Exchange σ Tracked) : Report × Session σ :=
  match reading.runOn (session.link seat.readerStore) with
  | (.ok tracked, link) =>
    (⟨.done (.ok ()), link.sent, link.events, some tracked⟩,
      (session.afterLink seat.readerStore link).keep slot tracked)
  | (.error failure, link) =>
    (⟨.done (.error failure), link.sent, link.events, none⟩,
      session.afterLink seat.readerStore link)

/-- Runs an operation on a named entity in place. -/
def change (session : Session σ) (seat : Seat) (slot : String) (tracked : Tracked)
    (operation : InPlace σ Unit) : Report × Session σ :=
  let (outcome, tracked, link) := operation.runOn tracked (session.link seat.store)
  (⟨.done outcome, link.sent, link.events, some tracked⟩,
    (session.afterLink seat.store link).keep slot tracked)

/-- What a run comes to, with its events. -/
def runReport (run : Run α) (reply : Except Failure α → Reply) : Report :=
  ⟨reply run.outcome, [], run.events, none⟩

/-- The answer to reading a feed to its end. -/
def collectReply (collected : Cursor.Collected FeedItem) : Reply :=
  match collected.undecided, collected.failure with
  | true, _ => .undecided
  | false, some failure => .items (.error failure)
  | false, none => .items (.ok collected.items)

/-- The answer to taking the next item of a feed. -/
def pollReply : Cursor.Poll FeedItem → Reply
  | .item value => .item (.ok value)
  | .failed failure => .item (.error failure)
  | .ended => .endOfFeed
  | .undecided => .undecided

/-- Keeps an entity that was taken from a feed, if it is to be put under a name. -/
def keepItem (session : Session σ) (slot : Option String) (poll : Cursor.Poll FeedItem) :
    Session σ :=
  match poll, slot with
  | .item (.entity tracked), some slot => session.keep slot tracked
  | _, _ => session

/-- Performs an action.  A feed takes at most `patience` steps at a time. -/
def act [Peer σ] (patience : σ → Nat) (session : Session σ) (action : Action) :
    Report × Session σ :=
  match action with
  | .create client slot type => session.withSeat client fun seat =>
    match seat.client.create type with
    | .ok tracked => (.plain (.done (.ok ())) (some tracked), session.keep slot tracked)
    | .error failure => (.plain (.done (.error failure)) none, session)
  | .get client slot type id => session.withSeat client fun seat =>
    session.receive seat slot (seat.client.get type id)
  | .set slot field raw =>
    match session.entity? slot with
    | none => (.plain .noEntity none, session)
    | some tracked =>
      match tracked.set? (fun candidate => candidate.name == field) raw with
      | none => (.plain .noField (some tracked), session)
      | some (.ok tracked) => (.plain (.done (.ok ())) (some tracked), session.keep slot tracked)
      | some (.error failure) => (.plain (.done (.error failure)) (some tracked), session)
  | .perform operation client slot => session.withSeat client fun seat =>
    match session.entity? slot with
    | none => (.plain .noEntity none, session)
    | some tracked => session.change seat slot tracked (seat.client.perform operation)
  | .showEntity slot =>
    match session.entity? slot with
    | none => (.plain .noEntity none, session)
    | some tracked => (.plain .shown (some tracked), session)
  | .diagnose slot =>
    match session.entity? slot with
    | none => (.plain .noEntity none, session)
    | some tracked => (.plain (.text (.ok tracked.diagnosticText)) none, session)
  | .fetchAll client type clauses => session.withSeat client fun seat =>
    let run := Feed.ofClauses seat.client type none clauses
    match run.outcome with
    | .error failure => (⟨.done (.error failure), [], run.events, none⟩, session)
    | .ok feed =>
      let link := { session.link seat.readerStore with events := run.events }
      let (collected, link) := feed.collect link none (patience session.peer)
      (⟨collectReply collected, link.sent, link.events, none⟩,
        session.afterLink seat.readerStore link)
  | .openFeed client name type clauses shape => session.withSeat client fun seat =>
    let run := Feed.ofClauses seat.client type shape clauses
    match run.outcome with
    | .error failure => (⟨.done (.error failure), [], run.events, none⟩, session)
    | .ok feed => (⟨.done (.ok ()), [], run.events, none⟩, session.keepFeed name client feed)
  | .next name slot =>
    match Members.get? name session.feeds with
    | none => (.plain .noFeed none, session)
    | some (client, feed) => session.withSeat client fun seat =>
      let (poll, feed, link) := feed.poll (session.link seat.readerStore) (patience session.peer)
      let session := (session.afterLink seat.readerStore link).keepFeed name client feed
      (⟨pollReply poll, link.sent, link.events, none⟩, session.keepItem slot poll)
  | .queryUrl client type clauses => session.withSeat client fun seat =>
    let run : Run String := do
      let query ← Run.ofExcept (TypedQuery.ofClauses type.kind clauses)
      seat.client.queryUrl query.chain
    (runReport run .text, session)
  | .versionGet client identity => session.withSeat client fun seat =>
    (.plain (.token ((session.link seat.store).versions.get? identity)) none, session)
  | .versionSet client identity token => session.withSeat client fun seat =>
    let link := session.link seat.store
    (.plain (.done (.ok ())) none,
      session.afterLink seat.store { link with versions := link.versions.insert identity token })
  | .versionRemove client identity => session.withSeat client fun seat =>
    let link := session.link seat.store
    (.plain (.token (link.versions.get? identity)) none,
      session.afterLink seat.store { link with versions := link.versions.remove identity })
  | .versionCount client => session.withSeat client fun seat =>
    (.plain (.count (session.link seat.store).versions.size) none, session)

end Session

/-- Performs an action with recorded responses. -/
def Session.actRecorded (session : Session Recording) (action : Action) :
    Report × Session Recording :=
  session.act Recording.patience action

end ResourceFeed
