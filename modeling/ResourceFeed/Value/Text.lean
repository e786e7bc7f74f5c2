import ResourceFeed.Value.Basic
import ResourceFeed.Json.Printer

/-! # Values as JSON and as text

    Every value has a JSON form: an instant becomes its text and a number
    that is not finite becomes `null`.  In the other direction a JSON array
    becomes its own compact text, because values know no lists.

    The plain text of a value is what it spells without quotation marks; a
    record is shown as JSON.  The diagnostic text names the sort of every
    value.
-/

namespace ResourceFeed.Value

mutual

/-- The JSON form of a value. -/
def toJson : Value → Json
  | .null => .null
  | .bool value => .bool value
  | .int value => .integer value.toInt
  | .float value => if Decimal.isFinite value then .float value else .null
  | .text value => .text value
  | .instant value => .text value.text
  | .record fields => .object (toJsonFields fields)

/-- The JSON forms of named values. -/
def toJsonFields : List (String × Value) → List (String × Json)
  | [] => []
  | (name, value) :: rest => (name, toJson value) :: toJsonFields rest

end

mutual

/-- The value of a JSON value.  An integer beyond 64 bits with sign becomes a floating-point
    number, an array its own text. -/
def ofJson : Json → Value
  | .null => .null
  | .bool value => .bool value
  | .integer value =>
    match int64OfInt? value with
    | some value => .int value
    | none => .float (Json.integerToFloat value)
  | .float value => .float value
  | .text value => .text value
  | .array items => .text (Json.render (.array items))
  | .object members => .record (ofJsonMembers members)

/-- The values of the members of an object. -/
def ofJsonMembers : List (String × Json) → List (String × Value)
  | [] => []
  | (name, value) :: rest => (name, ofJson value) :: ofJsonMembers rest

end

/-- What a value spells, without quotation marks. -/
def plainText (value : Value) : String :=
  match value with
  | .null => "null"
  | .bool value => if value then "true" else "false"
  | .int value => toString value.toInt
  | .float value => Decimal.Layout.plain.text value
  | .text value => value
  | .instant value => value.text
  | .record _ => value.toJson.render

mutual

/-- The text of a value in diagnostics. -/
def diagnosticText : Value → String
  | .null => "Null"
  | .bool value => "Bool(" ++ (if value then "true" else "false") ++ ")"
  | .int value => "Int(" ++ toString value.toInt ++ ")"
  | .float value => "Float(" ++ Decimal.Layout.diagnostic.text value ++ ")"
  | .text value => "Text(" ++ Text.quoted value ++ ")"
  | .instant value => "DateTime(" ++ value.text ++ ")"
  | .record fields => "Record(\x7b" ++ diagnosticFields fields ++ "\x7d)"

/-- Named values in diagnostics, between commas. -/
def diagnosticFields : List (String × Value) → String
  | [] => ""
  | [(name, value)] => Text.quoted name ++ ": " ++ diagnosticText value
  | (name, value) :: rest =>
    Text.quoted name ++ ": " ++ diagnosticText value ++ ", " ++ diagnosticFields rest

end

end ResourceFeed.Value
