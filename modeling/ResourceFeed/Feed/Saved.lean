import ResourceFeed.Feed.Entry

/-! # Saved entries

    An entry can also be saved as an object with the members `key`, `version`,
    `resource_name` and `payload`, or as an array of these four in this order.
    The payload must be there; in an object the other members may be missing,
    no known member may be repeated, and unknown members are ignored whatever
    they hold.
-/

namespace ResourceFeed.Entry

/-- The members of a saved entry that have been read. -/
structure SavedParts where
  key : Option (Option String)
  version : Option (Option String)
  resourceName : Option (Option String)
  payload : Option (Members Json)

/-- A text or `null`. -/
def savedText? : Json.Draft → Option (Option String)
  | .word .null => some none
  | .string parts => (Json.string? parts).map some
  | _ => none

/-- A payload, which is nested in the entry. -/
def savedPayload? (draft : Json.Draft) : Option (Members Json) :=
  (Json.ofDraft? (Json.depthLimit - 1) draft).bind Json.members?

/-- Reads one more member.  A known member may not be repeated. -/
def addSaved? (parts : SavedParts) (member : List Json.StringPart × Json.Draft) :
    Option SavedParts := do
  let name ← Json.string? member.1
  match name with
  | "key" =>
    if parts.key.isSome then none
    return { parts with key := some (← savedText? member.2) }
  | "version" =>
    if parts.version.isSome then none
    return { parts with version := some (← savedText? member.2) }
  | "resource_name" =>
    if parts.resourceName.isSome then none
    return { parts with resourceName := some (← savedText? member.2) }
  | "payload" =>
    if parts.payload.isSome then none
    return { parts with payload := some (← savedPayload? member.2) }
  | _ => return parts

/-- The entry of a saved draft. -/
def ofSavedDraft? : Json.Draft → Option Entry
  | .object members => do
    let parts ← members.foldlM addSaved? ⟨none, none, none, none⟩
    let payload ← parts.payload
    return ⟨parts.key.join, parts.version.join, parts.resourceName.join, payload⟩
  | .array [key, version, resourceName, payload] => do
    return ⟨← savedText? key, ← savedText? version, ← savedText? resourceName,
      ← savedPayload? payload⟩
  | _ => none

/-- The entry of a saved text. -/
def ofSaved? (text : String) : Option Entry :=
  (Json.Draft.ofChars? text.toList).bind ofSavedDraft?

/-- A text or `null` as it is saved. -/
def savedOption (text : Option String) : String :=
  match text with
  | some text => Json.stringText text
  | none => "null"

/-- The text in which an entry is saved. -/
def saved (entry : Entry) : String :=
  "\x7b\"key\":" ++ savedOption entry.key
    ++ ",\"version\":" ++ savedOption entry.version
    ++ ",\"resource_name\":" ++ savedOption entry.resourceName
    ++ ",\"payload\":" ++ (Json.object entry.payload).render ++ "\x7d"

end ResourceFeed.Entry
