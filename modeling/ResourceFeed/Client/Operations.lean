import ResourceFeed.Client.Settings
import ResourceFeed.Client.Stream

/-! # Clients

    A client sends queries, reads feeds, and creates, changes and deletes
    resources.  What it changes it sends with the version it last knew, so
    that the server can refuse a change of a resource that has changed since;
    if it knows none it sends the empty version.

    Only writable fields are ever sent: all of them for a new resource, and
    afterwards those that differ from what the server last had.
-/

namespace ResourceFeed

/-- A client for one server. -/
structure Client where
  settings : Settings
  site : Site

namespace Client

variable {σ : Type}

/-- The client for settings and a catalog. -/
def ofSettings (settings : Settings) (catalog : Catalog) : Except Failure Client :=
  settings.validated.map fun settings =>
    ⟨settings, Site.ofBase settings.trimmedBaseUrl (Resolver.ofCatalog catalog)⟩

/-- The kinds of resources that the client knows. -/
def resolver (client : Client) : Resolver :=
  client.site.resolver

/-! ## Queries -/

/-- Folds a chain and finds its target. -/
def target (client : Client) (chain : Chain) : Run Target := do
  let chain ← chain.fold
  Run.ofExcept (client.site.target chain)

/-- The address of the target of a chain. -/
def queryUrl (client : Client) (chain : Chain) : Run String := do
  return (← client.target chain).url

/-- The address of the first page for a page size. -/
def withPageSize (pageSize : Option Nat) (url : String) : String :=
  match pageSize with
  | some count => Address.setParameter url "count" (toString count)
  | none => url

/-- The address of the first page for an address. -/
def pagedUrl (client : Client) (url : String) : String :=
  withPageSize client.settings.pageSize url

/-- A feed that has been opened: where to start and how to convert. -/
structure Opened (α : Type) where
  cursor : Cursor
  convert : Conversion α

/-- Opens the feed of the entities of a query. -/
def openEntities (client : Client) (type : EntityType) (query : Query) : Run (Opened Tracked) := do
  let target ← client.target query.chain
  if target.projector.isSome then Run.fail (.invalidShape .entityQueryProjects)
  else pure ⟨.start (client.pagedUrl target.url),
    .entity client.resolver type⟩

/-- The address of a projected query and its selector. -/
def projectedTarget (client : Client) (query : Projected) : Run (String × Expr) := do
  let target ← client.target query.chain
  match target.projector with
  | some selector => pure (target.url, selector)
  | none => Run.fail (.invalidShape .projectionMissing)

/-- Opens the feed of the values of a projected query. -/
def openValues (client : Client) (type : EntityType) (query : Projected) :
    Run (Opened Value) := do
  let (url, selector) ← client.projectedTarget query
  pure ⟨.start (client.pagedUrl url), .value client.resolver type selector⟩

/-- Opens the feed of the values of a projected query in a shape. -/
def openShapes (client : Client) (type : EntityType) (query : Projected) (shape : Shape) :
    Run (Opened Value) := do
  let (url, selector) ← client.projectedTarget query
  pure ⟨.start (client.pagedUrl url), .shaped client.resolver type selector shape⟩

/-! ## Single resources -/

/-- Materializes an entry and remembers its version. -/
def receive (client : Client) (type : EntityType) (entry : Entry) : Exchange σ Tracked := do
  let tracked ← Exchange.ofExcept (materialize client.resolver type entry)
  Exchange.modifyVersions fun versions => rememberVersion versions tracked entry
  return tracked

/-- Reads the resource with a key.  The header gives its version if the body does not. -/
def get [Peer σ] (client : Client) (type : EntityType) (id : String) : Exchange σ Tracked := do
  let url ← Exchange.ofExcept (client.site.singleUrl type.kind id)
  let response ← Exchange.send (Request.read url)
  let response ← Exchange.ofExcept response.accepted
  let entry ← Exchange.ofExcept (Entry.decode response.body)
  client.receive type { entry with version := entry.version.or response.etag }

/-- A fresh entity. -/
def create (client : Client) (type : EntityType) : Except Failure Tracked :=
  (client.resolver.blank type).map Tracked.new

/-- The payload of a record. -/
def payload (record : Record) : Members Json :=
  record.map fun member => (member.1, member.2.toJson)

/-- Sends a request that changes something. -/
def sendChange [Peer σ] (request : Request) : Exchange σ Response := do
  let response ← Exchange.send request
  if response.isSuccess then return response
  else throw (Failure.ofRefusedChange response.status response.text)

/-- Remembers a version, if there is one. -/
def remember (identity : Identity) (version : Option String) : Exchange σ Unit :=
  match version with
  | some version => Exchange.modifyVersions fun versions => versions.insert identity version
  | none => pure ()

/-- The identity of an entity for an operation that needs one. -/
def knownIdentity (tracked : Tracked) (operation : Operation) : Except Failure Identity :=
  match tracked.identity? with
  | some identity => .ok identity
  | none => .error (.invalidState operation tracked.state true)

/-- The version to be sent for an identity. -/
def ifMatch (identity : Identity) : Exchange σ String := do
  return (← Exchange.version? identity).getD ""

/-- Creates a resource from a new entity; the entity after the server accepted it. -/
def insert [Peer σ] (client : Client) (tracked : Tracked) : Exchange σ Tracked := do
  if tracked.state ≠ .new then throw (.invalidState .insert tracked.state false)
  let kind := tracked.entity.type.kind
  let url ← Exchange.ofExcept (client.site.collectionUrl kind)
  let body := (Entry.ofPayload (payload tracked.writableFields)).encode
  let response ← sendChange ⟨.post, url, mediaType, none, some body⟩
  let created ← Exchange.ofExcept (Entry.decode response.body)
  match created.key with
  | none => throw (.document .keyMissing)
  | some key =>
    remember ⟨kind, key⟩ (created.version.or response.etag)
    return tracked.persist (some key)

/-- The version that the body of an answer gives; a body that is no entry gives none. -/
def answeredVersion (response : Response) : Option String :=
  match Entry.decode response.body with
  | .ok entry => entry.version
  | .error _ => none

/-- The request that sends the changed fields of an entity. -/
def updateRequest (tracked : Tracked) (url token : String) : Request :=
  ⟨.put, url, mediaType, some token, some (Entry.ofPayload (payload tracked.changes)).encode⟩

/-- Sends the changed fields of a persisted entity, if there are any; the entity after the server
    accepted them. -/
def update [Peer σ] (client : Client) (tracked : Tracked) : Exchange σ Tracked := do
  let state := tracked.state
  if state = .new ∨ state = .deleted then throw (.invalidState .update state false)
  if tracked.changes.isEmpty then return tracked
  let identity ← Exchange.ofExcept (knownIdentity tracked .update)
  let url ← Exchange.ofExcept (client.site.singleUrl identity.kind identity.id)
  let token ← ifMatch identity
  let response ← sendChange (updateRequest tracked url token)
  remember identity ((answeredVersion response).or response.etag)
  return tracked.persist none

/-- Deletes the resource of a persisted entity; the entity after the server accepted it. -/
def delete [Peer σ] (client : Client) (tracked : Tracked) : Exchange σ Tracked := do
  let state := tracked.state
  if state = .new ∨ state = .deleted then throw (.invalidState .delete state false)
  let identity ← Exchange.ofExcept (knownIdentity tracked .delete)
  let url ← Exchange.ofExcept (client.site.singleUrl identity.kind identity.id)
  let token ← ifMatch identity
  let _ ← sendChange ⟨.delete, url, mediaType, some token, none⟩
  Exchange.modifyVersions fun versions => versions.remove identity
  return tracked.asDeleted

/-- Creates or updates, as the state of the entity asks for. -/
def save [Peer σ] (client : Client) (tracked : Tracked) : Exchange σ Tracked :=
  match tracked.state with
  | .new => client.insert tracked
  | .modified => client.update tracked
  | .unmodified => pure tracked
  | .deleted => throw (.invalidState .save .deleted false)

end Client

end ResourceFeed
