import ResourceFeed.Failure
import ResourceFeed.Resource.Coercion

/-! # Entities

    An entity type is a table of fields, each with its name on the wire, its
    type, and whether a client may write it.  An entity is a row of cells, one
    for each field of its type in the order of the table.

    Three sorts of fields occur.  A writable field is read and sent.  A read
    only field is kept by the server: it is read but never sent.  A
    relationship refers to another resource and is neither read nor sent.
-/

namespace ResourceFeed

/-- A row of the table of an entity type. -/
structure Field where
  /-- The name on the wire. -/
  name : String
  /-- The name in diagnostics. -/
  label : String
  type : FieldType
  /-- What the field holds in a fresh entity. -/
  initial : type.Content
  /-- Whether the field is kept by the server. -/
  isReadOnly : Bool
  /-- Whether the field refers to another resource. -/
  isRelationship : Bool

/-- The contents of a field that nothing was written to. -/
def FieldType.blank : (type : FieldType) → type.Content
  | .plain .text => ""
  | .plain .boolean => false
  | .plain .int32 => (0 : Int32)
  | .plain .int64 => (0 : Int64)
  | .plain .float => (0.0 : Float)
  | .plain .instant => Calendar.Instant.epoch
  | .optional inner => (none : Option inner.Content)

namespace Field

/-- A writable field that is blank in a fresh entity. -/
def writable (name label : String) (type : FieldType) : Field :=
  ⟨name, label, type, type.blank, false, false⟩

/-- The same field, kept by the server. -/
def readOnly (field : Field) : Field :=
  { field with isReadOnly := true }

/-- The same field as a reference to another resource. -/
def relationship (field : Field) : Field :=
  { field with isRelationship := true }

/-- Whether a client may write the field. -/
def isWritable (field : Field) : Bool :=
  !field.isReadOnly && !field.isRelationship

end Field

/-- What a type of entities is known by. -/
structure TypeName where
  /-- What tells the type from all others. -/
  identity : String
  /-- What it is called in messages, where other types may be called the same. -/
  shown : String

/-- A text stands for a type that is called by its identity. -/
instance : Coe String TypeName :=
  ⟨fun text => ⟨text, text⟩⟩

instance : CoeOut TypeName String :=
  ⟨TypeName.shown⟩

/-- A type of entities.  Two types are the same if they have the same identity. -/
structure EntityType where
  name : TypeName
  /-- The kind of resources that the type stands for. -/
  kind : String
  fields : List Field

/-! ## Cells -/

/-- A field with its contents. -/
structure Cell where
  field : Field
  content : field.type.Content

namespace Cell

/-- The contents as a value. -/
def value (cell : Cell) : Value :=
  cell.field.type.valueOf cell.content

/-- The name of the field with its contents as a value. -/
def named (cell : Cell) : String × Value :=
  (cell.field.name, cell.value)

/-- The failure to hold a raw value. -/
def formatFailure (cell : Cell) (raw : Json) : Failure :=
  .format cell.field.name raw cell.field.type.wire

/-- The cell with a raw value in it. -/
def setRaw (cell : Cell) (raw : Json) : Except Failure Cell :=
  match (coerce? cell.field.type.wire raw).bind cell.field.type.ofValue? with
  | some content => .ok ⟨cell.field, content⟩
  | none => .error (cell.formatFailure raw)

end Cell

/-! ## Entities -/

/-- An entity: its type and a cell for each field. -/
structure Entity where
  type : EntityType
  cells : List Cell

/-- A fresh entity. -/
def EntityType.fresh (type : EntityType) : Entity :=
  ⟨type, type.fields.map fun field => ⟨field, field.initial⟩⟩

/-- Puts a raw value into the first cell whose field is chosen; `none` if there is no such
    field. -/
def setFirst? (choose : Field → Bool) (raw : Json) :
    List Cell → Option (Except Failure (List Cell))
  | [] => none
  | cell :: rest =>
    if choose cell.field then some ((cell.setRaw raw).map (· :: rest))
    else (setFirst? choose raw rest).map fun outcome => outcome.map (cell :: ·)

namespace Entity

/-- The cells whose fields are chosen, by name. -/
def record (entity : Entity) (choose : Field → Bool) : Record :=
  Members.ofList ((entity.cells.filter fun cell => choose cell.field).map Cell.named)

/-- All fields but the relationships, by name. -/
def visibleFields (entity : Entity) : Record :=
  entity.record fun field => !field.isRelationship

/-- The writable fields by name. -/
def writableFields (entity : Entity) : Record :=
  entity.record Field.isWritable

/-- Sets the first chosen field to a raw value; `none` if there is no such field. -/
def set? (entity : Entity) (choose : Field → Bool) (raw : Json) :
    Option (Except Failure Entity) :=
  (setFirst? choose raw entity.cells).map fun outcome =>
    outcome.map fun cells => { entity with cells := cells }

/-- One cell with what a payload holds for it: nothing for a relationship, an absent member or
    `null`. -/
def loadCell (payload : Members Json) (cell : Cell) : Except Failure Cell :=
  if cell.field.isRelationship then .ok cell
  else match Members.get? cell.field.name payload with
    | none => .ok cell
    | some raw => if raw.isNull then .ok cell else cell.setRaw raw

/-- The cells with what a payload holds for them, in the order of the table. -/
def loadCells (payload : Members Json) : List Cell → Except Failure (List Cell)
  | [] => .ok []
  | cell :: rest => do
    let cell ← loadCell payload cell
    let rest ← loadCells payload rest
    return cell :: rest

/-- The entity with what a payload holds for its fields. -/
def load (entity : Entity) (payload : Members Json) : Except Failure Entity :=
  (loadCells payload entity.cells).map fun cells => { entity with cells := cells }

end Entity

/-! ## Diagnostics -/

/-- Contents of a wire form in diagnostics. -/
def FieldType.plainDiagnosticText : (wire : WireForm) → PlainContent wire → String
  | .text, content => Text.quoted content
  | .boolean, content => cond content "true" "false"
  | .int32, content => toString content.toInt
  | .int64, content => toString content.toInt
  | .float, content => Decimal.Layout.diagnostic.text content
  | .instant, content => content.text

/-- Contents in diagnostics. -/
def FieldType.diagnosticText : (type : FieldType) → type.Content → String
  | .plain wire, content => plainDiagnosticText wire content
  | .optional inner, content =>
    match (content : Option inner.Content) with
    | none => "None"
    | some content => "Some(" ++ diagnosticText inner content ++ ")"

/-- An entity in diagnostics. -/
def Entity.diagnosticText (entity : Entity) : String :=
  let cell (c : Cell) := c.field.label ++ ": " ++ c.field.type.diagnosticText c.content
  if entity.cells.isEmpty then entity.type.name.shown
  else entity.type.name.shown ++ " \x7b " ++ String.intercalate ", " (entity.cells.map cell) ++ " \x7d"

end ResourceFeed
