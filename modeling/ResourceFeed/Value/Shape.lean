import ResourceFeed.Value.Text

/-! # Shapes

    A caller may ask for the results of a projection in a shape of its own:
    an integer of some range, a text, or an object with certain members.  A
    shape reads the JSON form of a value.  Members that an object does not ask
    for are ignored, and one that it asks for may be absent if it is optional.
-/

namespace ResourceFeed

/-- A shape that a value may have. -/
inductive Shape where
  /-- An integer from `least` to `greatest`; a number with a fraction is none. -/
  | integer (least greatest : Int)
  | number
  | boolean
  | text
  /-- `null`, or the inner shape. -/
  | optional (inner : Shape)
  /-- An object with members of these names and shapes. -/
  | object (members : List (String × Shape))

namespace Shape

/-- What a member of this shape is when it is absent. -/
def absent? : Shape → Option Value
  | .optional _ => some .null
  | _ => none

mutual

/-- Reads a JSON value in a shape. -/
def ofJson? : Shape → Json → Option Value
  | .integer least greatest, json =>
    match json with
    | .integer value =>
      if least ≤ value ∧ value ≤ greatest then some (.int (Int64.ofInt value)) else none
    | _ => none
  | .number, json => json.float?.map .float
  | .boolean, json =>
    match json with
    | .bool value => some (.bool value)
    | _ => none
  | .text, json => json.text?.map .text
  | .optional inner, json => if json.isNull then some .null else inner.ofJson? json
  | .object members, json =>
    json.members?.bind fun present =>
      (membersOfJson? members present).map fun fields => .record (Members.ofList fields)

/-- Reads each member in its shape. -/
def membersOfJson? : List (String × Shape) → Members Json → Option (List (String × Value))
  | [], _ => some []
  | (name, shape) :: rest, present => do
    let value ←
      match Members.get? name present with
      | some json => shape.ofJson? json
      | none => shape.absent?
    let fields ← membersOfJson? rest present
    return (name, value) :: fields

end

end Shape

/-- Reads the JSON form of a value in a shape. -/
def Value.inShape? (shape : Shape) (value : Value) : Option Value :=
  shape.ofJson? value.toJson

end ResourceFeed
