import ResourceFeed.Limits
import ResourceFeed.Value.Basic

/-! # Field types

    What a field of an entity can hold, and how it is declared to the reader
    of a feed.  A field type is one of six wire forms or an optional form of
    another field type; an optional field may hold nothing.

    Contents are typed: `FieldType.Content` gives each field type the Lean
    type of its contents.  `valueOf` shows contents as a value and `ofValue?`
    accepts a value as contents; `plainOfValue?_plainToValue` says that what a
    wire form shows it accepts again.
-/

namespace ResourceFeed

/-- The type that a field declares on the wire. -/
inductive WireForm where
  | text
  | boolean
  | int32
  | int64
  | float
  | instant
  deriving DecidableEq, Repr

namespace WireForm

/-- The name of a wire form. -/
def name : WireForm → String
  | .text => "text"
  | .boolean => "boolean"
  | .int32 => "int32"
  | .int64 => "int64"
  | .float => "float"
  | .instant => "datetime"

end WireForm

/-- The type of a field. -/
inductive FieldType where
  /-- A field that always holds something of a wire form. -/
  | plain (wire : WireForm)
  | optional (inner : FieldType)
  deriving DecidableEq, Repr

namespace FieldType

/-- The contents of a field of a wire form. -/
abbrev PlainContent : WireForm → Type
  | .text => String
  | .boolean => Bool
  | .int32 => Int32
  | .int64 => Int64
  | .float => Float
  | .instant => Calendar.Instant

/-- The contents of a field. -/
def Content : FieldType → Type
  | .plain wire => PlainContent wire
  | .optional inner => Option inner.Content

/-- The wire form under the optional forms. -/
def wire : FieldType → WireForm
  | .plain wire => wire
  | .optional inner => inner.wire

/-- Contents of a wire form as a value. -/
def plainToValue : (wire : WireForm) → PlainContent wire → Value
  | .text, content => .text content
  | .boolean, content => .bool content
  | .int32, content => .int content.toInt64
  | .int64, content => .int content
  | .float, content => .float content
  | .instant, content => .instant content

/-- A value as contents of a wire form.  A floating-point field takes an integer too, and an
    integer field only an integer of its range. -/
def plainOfValue? (wire : WireForm) (value : Value) : Option (PlainContent wire) :=
  match wire, value with
  | .text, .text value => some value
  | .boolean, .bool value => some value
  | .int32, .int value =>
    if FitsInt32 value.toInt then some (Int32.ofInt value.toInt) else none
  | .int64, .int value => some value
  | .float, .float value => some value
  | .float, .int value => some value.toFloat
  | .instant, .instant value => some value
  | _, _ => none

/-- Contents as a value; nothing is null. -/
def valueOf : (type : FieldType) → type.Content → Value
  | .plain wire, content => plainToValue wire content
  | .optional inner, content =>
    match (content : Option inner.Content) with
    | none => .null
    | some content => valueOf inner content

/-- A value as contents, if the field can hold it. -/
def ofValue? : (type : FieldType) → Value → Option type.Content
  | .plain wire, value => plainOfValue? wire value
  | .optional inner, value =>
    match value with
    | .null => some (none : Option inner.Content)
    | value => (ofValue? inner value).map (some : inner.Content → Option inner.Content)

/-! ## Laws -/

theorem plainOfValue?_plainToValue (wire : WireForm) (content : PlainContent wire) :
    plainOfValue? wire (plainToValue wire content) = some content := by
  cases wire with
  | int32 =>
    have low := content.le_toInt
    have high := content.toInt_lt
    simp only [plainToValue, plainOfValue?, Int32.toInt_toInt64, Int32.ofInt_toInt]
    rw [if_pos ⟨low, high⟩]
  | _ => rfl

end FieldType

end ResourceFeed
