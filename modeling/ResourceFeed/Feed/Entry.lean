import ResourceFeed.Failure
import ResourceFeed.Feed.Address
import ResourceFeed.Json.Reading

/-! # Feeds

    A server answers with a resource, or with a *feed*: a page of resources.
    Both are JSON objects.  Of a resource the members `$key`, `$etag` and
    `$name` are its key, its version and its name, all other members with a
    dollar sign are ignored, and the rest is its payload.

    A page that does not say where the next one is found may still say how
    many resources there are and where it starts; then the next page is the
    same address with another `startIndex`.
-/

namespace ResourceFeed

/-- A resource as it appears in a feed. -/
structure Entry where
  key : Option String
  /-- The opaque version of the resource. -/
  version : Option String
  resourceName : Option String
  /-- The fields with their raw values. -/
  payload : Members Json

/-- A page of a feed. -/
structure Page where
  entries : List Entry
  /-- The address of the next page. -/
  next : Option String
  totalResults : Option Nat

namespace Entry

/-- An entry that only has a payload. -/
def ofPayload (payload : Members Json) : Entry :=
  ⟨none, none, none, payload⟩

/-- The text of a value that should be a string; any other value counts as its JSON text. -/
def scalarText? : Json → Option String
  | .null => none
  | .text value => some value
  | other => some other.render

/-- Whether a name belongs to the feed and not to the resource. -/
def isReserved (name : String) : Bool :=
  name.toList.head? == some '$'

/-- The entry of a resource. -/
def ofMembers (members : Members Json) : Entry :=
  { key := (Members.get? "$key" members).bind scalarText?
    version := (Members.get? "$etag" members).bind scalarText?
    resourceName := (Members.get? "$name" members).bind scalarText?
    payload := members.filter fun member => !isReserved member.1 }

/-- The object that is sent for an entry: its key and its payload. -/
def toJson (entry : Entry) : Json :=
  let start : Members Json := match entry.key with
    | some key => [("$key", .text key)]
    | none => []
  .object (entry.payload.foldl (fun members member => Members.insert member.1 member.2 members)
    start)

/-- The text that is sent for an entry. -/
def encode (entry : Entry) : String :=
  entry.toJson.render

end Entry

/-- The kind of content in which feeds are sent. -/
def mediaType : String := "application/json"

/-- The members of an object. -/
def objectMembers (json : Json) : Except Failure (Members Json) :=
  match json.members? with
  | some members => .ok members
  | none => .error (.document .notAnObject)

/-- The JSON value of a body. -/
def document (body : Text.Bytes) : Except Failure Json :=
  match Json.ofBytes? body with
  | some json => .ok json
  | none => .error (.document .malformed)

/-- The entry of a JSON value. -/
def entryOfJson (json : Json) : Except Failure Entry :=
  (objectMembers json).map Entry.ofMembers

namespace Page

/-- A member of a page that counts resources. -/
def count? (members : Members Json) (name : String) : Option UInt64 :=
  ((Members.get? name members).bind Json.uint64?).map UInt64.ofNat

/-- The start of the page after one with a number of resources, if the total goes that far.  A
    page starts at the first resource unless it says otherwise. -/
def nextStart? (members : Members Json) (returned : Nat) : Option UInt64 :=
  if returned = 0 then none
  else (count? members "$totalResults").bind fun total =>
    let start := (count? members "$startIndex").getD 1
    let perPage := (count? members "$itemsPerPage").getD (UInt64.ofNat returned)
    if start + perPage ≤ total then some (start + perPage) else none

/-- The address of the page after one with a number of resources. -/
def nextLink? (members : Members Json) (returned : Nat) (address : String) : Option String :=
  match (Members.get? "$next" members).bind Json.text? with
  | some next => some next
  | none => (nextStart? members returned).map fun start =>
      Address.setParameter address "startIndex" (toString start.toNat)

/-- The resources of a page. -/
def entriesOfMembers (members : Members Json) : Except Failure (List Entry) :=
  match Members.get? "$resources" members with
  | none => .ok []
  | some (.array items) => items.mapM entryOfJson
  | some _ => .error (.document .resourcesNotAnArray)

/-- The page in a body that was fetched from an address. -/
def decode (body : Text.Bytes) (address : String) : Except Failure Page := do
  let members ← objectMembers (← document body)
  let entries ← entriesOfMembers members
  return {
    entries := entries
    next := nextLink? members entries.length address
    totalResults := (Members.get? "$totalResults" members).bind Json.uint64? }

end Page

/-- The resource in a body; of a feed the first one. -/
def Entry.decode (body : Text.Bytes) : Except Failure Entry := do
  let json ← document body
  let members ← objectMembers json
  match (Members.get? "$resources" members).bind Json.items? with
  | some (first :: _) => entryOfJson first
  | some [] => throw (.document .noResource)
  | none => return Entry.ofMembers members

end ResourceFeed
