import ResourceFeed.Client.Operations

/-! # Opened feeds

    A query that is read gives either the entities of its feed or the values
    of its selector.  Both sorts of feed are opened from clauses, read on to
    the next item, and read to their end or to a limit.
-/

namespace ResourceFeed

/-- An opened feed of either sort, as far as it has been read. -/
inductive Feed where
  | entities (cursor : Cursor) (convert : Conversion Tracked)
  | values (cursor : Cursor) (convert : Conversion Value)

/-- An item of a feed. -/
inductive FeedItem where
  | entity (tracked : Tracked)
  | value (value : Value)

namespace Feed

variable {σ : Type}

/-- Opens the feed of a typed query; values may be asked for in a shape. -/
def ofQuery (client : Client) (type : EntityType) (shape : Option Shape) (query : TypedQuery) :
    Run Feed :=
  match query with
  | .entities query => do
    let opened ← client.openEntities type query
    pure (.entities opened.cursor opened.convert)
  | .values query => do
    let opened ← match shape with
      | none => client.openValues type query
      | some shape => client.openShapes type query shape
    pure (.values opened.cursor opened.convert)

/-- Opens the feed of clauses on the entities of a type. -/
def ofClauses (client : Client) (type : EntityType) (shape : Option Shape)
    (clauses : List Clause) : Run Feed := do
  let query ← Run.ofExcept (TypedQuery.ofClauses type.kind clauses)
  ofQuery client type shape query

/-- Takes the next item of a feed within a number of steps. -/
def poll [Peer σ] (feed : Feed) (link : Link σ) (patience : Nat) :
    Cursor.Poll FeedItem × Feed × Link σ :=
  match feed with
  | .entities cursor convert =>
    let (poll, cursor, link) := cursor.poll convert link patience
    (poll.map .entity, .entities cursor convert, link)
  | .values cursor convert =>
    let (poll, cursor, link) := cursor.poll convert link patience
    (poll.map .value, .values cursor convert, link)

/-- Takes items of a feed up to a limit within a number of steps. -/
def collect [Peer σ] (feed : Feed) (link : Link σ) (limit : Option Nat) (patience : Nat) :
    Cursor.Collected FeedItem × Link σ :=
  match feed with
  | .entities cursor convert =>
    let (collected, link) := cursor.collect convert link limit patience
    (collected.map .entity, link)
  | .values cursor convert =>
    let (collected, link) := cursor.collect convert link limit patience
    (collected.map .value, link)

end Feed

end ResourceFeed
