import ResourceFeed.Client.Exchange

/-! # Recordings

    A recording holds responses for a method and an address.  Of several
    responses for the same request the one recorded first is given first, and
    each is given once; when none is left the resource is not found.
-/

namespace ResourceFeed

/-- A response for a method and an address. -/
structure Recorded where
  method : String
  url : String
  response : Response

/-- Responses in the order in which they were recorded. -/
abbrev Recording := List Recorded

namespace Recording

/-- Takes the first response for a method and an address. -/
def take? (method url : String) : Recording → Option (Response × Recording)
  | [] => none
  | recorded :: rest =>
    if recorded.method = method ∧ recorded.url = url then some (recorded.response, rest)
    else (take? method url rest).map fun taken => (taken.1, recorded :: taken.2)

/-- The response when none is recorded for an address. -/
def notFound (url : String) : Response :=
  ⟨404, none, Text.toBytes ("no route for " ++ url)⟩

/-- The answer to a request. -/
def answer (request : Request) (recording : Recording) : Except Failure Response × Recording :=
  match recording.take? request.method.name request.url with
  | some (response, rest) => (.ok response, rest)
  | none => (.ok (notFound request.url), recording)

instance : Peer Recording := ⟨answer⟩

/-- More than the resources that all recorded responses can hold together. -/
def patience (recording : Recording) : Nat :=
  recording.foldl (fun sum recorded => sum + recorded.response.body.length + 1) 2

end Recording

end ResourceFeed
