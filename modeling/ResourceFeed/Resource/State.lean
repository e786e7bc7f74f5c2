/-! # The state of an entity

    Where an entity stands between its creation and its deletion.  `Lifecycle`
    is what a tracked entity remembers; `EntityState` also tells whether it
    was edited since it last agreed with the server.
-/

namespace ResourceFeed

/-- How far an entity has come. -/
inductive Lifecycle where
  /-- Not yet known to the server. -/
  | new
  | persisted
  | deleted
  deriving DecidableEq, Repr

/-- The state of an entity as a caller sees it. -/
inductive EntityState where
  | new
  /-- Persisted, and every writable field as the server last saw it. -/
  | unmodified
  /-- Persisted, with an edit that the server has not seen. -/
  | modified
  | deleted
  deriving DecidableEq, Repr

/-- The name of a state. -/
def EntityState.name : EntityState → String
  | .new => "New"
  | .unmodified => "Unmodified"
  | .modified => "Modified"
  | .deleted => "Deleted"

/-- What a caller may ask for that depends on the state of an entity. -/
inductive Operation where
  | save
  | insert
  | update
  | delete
  deriving DecidableEq, Repr

/-- The name of an operation. -/
def Operation.name : Operation → String
  | .save => "save"
  | .insert => "insert"
  | .update => "update"
  | .delete => "delete"

end ResourceFeed
