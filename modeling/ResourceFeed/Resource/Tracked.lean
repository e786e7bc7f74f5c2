import ResourceFeed.Resource.Entity
import ResourceFeed.Version.Store

/-! # Tracked entities

    An entity together with its key and with the values its fields had when
    the server last agreed on them, the *snapshot*.  Whether an entity is
    modified is not stored: it is if some writable field now differs from the
    snapshot.
-/

namespace ResourceFeed

/-- An entity with its identity and its snapshot. -/
structure Tracked where
  entity : Entity
  key : Option String
  lifecycle : Lifecycle
  /-- The fields as the server last had them; empty for a new entity. -/
  snapshot : Record

namespace Tracked

/-- An entity that the server does not know. -/
def new (entity : Entity) : Tracked :=
  ⟨entity, none, .new, []⟩

/-- An entity as the server sent it. -/
def received (entity : Entity) (key : Option String) : Tracked :=
  ⟨entity, key, .persisted, entity.visibleFields⟩

/-- The identity of the entity, if it has a key. -/
def identity? (tracked : Tracked) : Option Identity :=
  tracked.key.map fun id => ⟨tracked.entity.type.kind, id⟩

/-- The writable fields with their values. -/
def writableFields (tracked : Tracked) : Record :=
  tracked.entity.writableFields

/-- Whether a cell holds something else than the snapshot has under its name. -/
def isChanged (snapshot : Record) (cell : Cell) : Bool :=
  match Members.get? cell.field.name snapshot with
  | some previous => !previous.equal cell.value
  | none => true

/-- The writable fields that differ from the snapshot, with their values. -/
def changes (tracked : Tracked) : Record :=
  Members.ofList
    ((tracked.entity.cells.filter fun cell =>
      cell.field.isWritable && isChanged tracked.snapshot cell).map Cell.named)

/-- The state as a caller sees it. -/
def state (tracked : Tracked) : EntityState :=
  match tracked.lifecycle with
  | .new => .new
  | .deleted => .deleted
  | .persisted => if tracked.changes.isEmpty then .unmodified else .modified

/-- The entity after the server accepted it; a key is taken if there is one. -/
def persist (tracked : Tracked) (key : Option String) : Tracked :=
  { tracked with
    key := key.or tracked.key
    lifecycle := .persisted
    snapshot := tracked.entity.visibleFields }

/-- The entity after the server deleted it. -/
def asDeleted (tracked : Tracked) : Tracked :=
  { tracked with lifecycle := .deleted }

/-- Sets the first chosen field to a raw value; `none` if there is no such field. -/
def set? (tracked : Tracked) (choose : Field → Bool) (raw : Json) :
    Option (Except Failure Tracked) :=
  (tracked.entity.set? choose raw).map fun outcome =>
    outcome.map fun entity => { tracked with entity := entity }

/-- A tracked entity in diagnostics. -/
def diagnosticText (tracked : Tracked) : String :=
  let key := match tracked.key with
    | none => "None"
    | some key => "Some(" ++ Text.quoted key ++ ")"
  "Tracked \x7b key: " ++ key ++ ", state: " ++ tracked.state.name ++ ", entity: "
    ++ tracked.entity.diagnosticText ++ " \x7d"

end Tracked

end ResourceFeed
