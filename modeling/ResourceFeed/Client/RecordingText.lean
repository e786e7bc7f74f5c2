import ResourceFeed.Client.Recording
import ResourceFeed.Json.Reading
import ResourceFeed.Text.Blank
import ResourceFeed.Text.Split

/-! # Recordings as text

    A recording is kept with one response a line, each a JSON object with the
    members `method`, `url`, `status`, `body` and `etag`.  The status is 200,
    the body empty and the tag missing unless the object says otherwise.
    Blank lines are skipped.
-/

namespace ResourceFeed

/-- The text of a member that may be missing. -/
def optionalText? (name : String) (members : Members Json) : Option (Option String) :=
  match Members.get? name members with
  | none | some .null => some none
  | some (.text value) => some (some value)
  | some _ => none

/-- The response in a line of a recording. -/
def Recorded.ofLine? (line : String) : Option Recorded := do
  let members ← (← Json.ofText? line).members?
  let method ← (← Members.get? "method" members).text?
  let url ← (← Members.get? "url" members).text?
  let status ← ((Members.get? "status" members).getD (.integer 200)).uint64?
  let etag ← optionalText? "etag" members
  let body ← optionalText? "body" members
  return ⟨method, url, status, etag, Text.toBytes (body.getD "")⟩

/-- The recording in a text. -/
def Recording.ofText? (text : String) : Option Recording :=
  let lines := (Text.pieces (· == '\n') text.toList).filter fun line => !line.all Text.isBlank
  lines.mapM fun line => Recorded.ofLine? (String.ofList line)

end ResourceFeed
