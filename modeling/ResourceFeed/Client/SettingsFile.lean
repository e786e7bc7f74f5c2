import ResourceFeed.Client.Settings
import ResourceFeed.Toml.Reading

/-! # Settings files

    Settings are kept in a TOML document.  Keys that are missing leave the
    initial settings, unknown keys are ignored, and a value of another type or
    out of range makes the whole file unusable.  The timeout and the
    credentials are tables, or arrays of their parts in order.
-/

namespace ResourceFeed.Settings

/-- A text. -/
def tomlText? : Toml → Option String
  | .string value => some value
  | _ => none

/-- An integer from zero to below a limit. -/
def tomlNatural? (limit : Nat) : Toml → Option Nat
  | .integer value => if 0 ≤ value ∧ value < limit then some value.toNat else none
  | _ => none

/-- A timeout from its parts. -/
def timeoutOfParts? (seconds nanos : Toml) : Option Timeout := do
  return .ofParts (← tomlNatural? limitUInt64 seconds) (← tomlNatural? limitUInt32 nanos)

/-- A timeout.  Its table has no other members. -/
def timeout? : Toml → Option Timeout
  | .table members => do
    if !members.all fun member => member.1 == "secs" || member.1 == "nanos" then none
    timeoutOfParts? (← Members.get? "secs" members) (← Members.get? "nanos" members)
  | .array (seconds :: nanos :: _) => timeoutOfParts? seconds nanos
  | _ => none

/-- Credentials from their parts. -/
def credentialsOfParts? (user password : Toml) : Option Credentials := do
  return ⟨← tomlText? user, ← tomlText? password⟩

/-- Credentials.  Other members of their table are ignored. -/
def credentials? : Toml → Option Credentials
  | .table members => do
    credentialsOfParts? (← Members.get? "user" members) (← Members.get? "password" members)
  | .array (user :: password :: _) => credentialsOfParts? user password
  | _ => none

/-- The settings after one member of a settings file. -/
def addMember? (settings : Settings) (member : String × Toml) : Option Settings :=
  match member with
  | ("base_url", value) => (tomlText? value).map fun url => { settings with baseUrl := url }
  | ("timeout", value) => (timeout? value).map fun timeout => { settings with timeout := timeout }
  | ("page_size", value) =>
    (tomlNatural? limitUInt32 value).map fun size => { settings with pageSize := some size }
  | ("credentials", value) =>
    (credentials? value).map fun credentials => { settings with credentials := some credentials }
  | ("token_cache_capacity", value) =>
    (tomlNatural? limitUInt64 value).map fun count => { settings with tokenCapacity := some count }
  | _ => some settings

/-- The settings in a settings file, if they can be used. -/
def ofFile (text : String) : Except Failure Settings :=
  match (Toml.ofText? text).bind fun members => members.foldlM addMember? initial with
  | some settings => settings.validated
  | none => .error (.settings .malformed)

end ResourceFeed.Settings
