import ResourceFeed.Decimal.Reading
import ResourceFeed.Text.Blank
import ResourceFeed.Text.Split
import ResourceFeed.Value.Basic

/-! # Assignments

    On a command line a field and a value are spelled `FIELD=VALUE`.  The
    value is a literal: the words `null`, `true` and `false`, an integer of 64
    bits, a floating-point number, or else a text.
-/

namespace ResourceFeed.CommandLine

/-- The value of a literal. -/
def literal (text : String) : Value :=
  if text = "null" then .null
  else if text = "true" then .bool true
  else if text = "false" then .bool false
  else match Decimal.int64? text with
    | some value => .int value
    | none =>
      match Decimal.float? text with
      | some value => .float value
      | none => .text text

/-- A field and the text that is compared with it or assigned to it. -/
structure Assignment where
  field : String
  text : String
  deriving DecidableEq, Repr

/-- The message for a text that is no assignment. -/
def Assignment.refusal (text : String) : String :=
  "expected FIELD=VALUE, got '" ++ text ++ "'"

/-- Reads an assignment: a field that is not blank, the first equals sign and the rest.  Blanks
    around the field are left out. -/
def Assignment.ofText (text : String) : Except String Assignment :=
  match Text.splitFirst '=' text.toList with
  | (_, none) => .error (refusal text)
  | (field, some value) =>
    let field := Text.trimChars field
    if field.isEmpty then .error (refusal text)
    else .ok ⟨String.ofList field, String.ofList value⟩

/-- The value that is compared or assigned. -/
def Assignment.value (assignment : Assignment) : Value :=
  literal assignment.text

end ResourceFeed.CommandLine
