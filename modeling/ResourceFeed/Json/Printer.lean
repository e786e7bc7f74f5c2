import ResourceFeed.Json.Basic
import ResourceFeed.Decimal.Layout
import ResourceFeed.Text.Quoted

/-! # JSON text

    The compact text of a JSON value: no blanks, members in their order, and
    of all characters only the quotation mark, the backslash and the control
    characters below the space escaped.
-/

namespace ResourceFeed.Json

/-- A character as it stands in a JSON string. -/
def charText (c : Char) : String :=
  match c with
  | '"' => "\\\""
  | '\\' => "\\\\"
  | '\x08' => "\\b"
  | '\x0c' => "\\f"
  | '\n' => "\\n"
  | '\r' => "\\r"
  | '\t' => "\\t"
  | c => if c.toNat < 0x20 then "\\u00" ++ twoDigits c.toNat else c.toString
where
  /-- A number below 256 in two hexadecimal digits. -/
  twoDigits (n : Nat) : String :=
    (if n < 16 then "0" else "") ++ Text.hexadecimal n

/-- A text as a JSON string. -/
def stringText (value : String) : String :=
  "\"" ++ String.join (value.toList.map charText) ++ "\""

mutual

/-- The compact text of a value. -/
def render : Json → String
  | .null => "null"
  | .bool value => if value then "true" else "false"
  | .integer value => toString value
  | .float value => Decimal.Layout.document.text value
  | .text value => stringText value
  | .array items => "[" ++ renderItems items ++ "]"
  | .object members => "\x7b" ++ renderMembers members ++ "\x7d"

/-- The items of an array, between commas. -/
def renderItems : List Json → String
  | [] => ""
  | [item] => render item
  | item :: rest => render item ++ "," ++ renderItems rest

/-- The members of an object, between commas. -/
def renderMembers : List (String × Json) → String
  | [] => ""
  | [(name, value)] => stringText name ++ ":" ++ render value
  | (name, value) :: rest => stringText name ++ ":" ++ render value ++ "," ++ renderMembers rest

end

end ResourceFeed.Json
