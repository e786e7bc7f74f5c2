import ResourceFeed.Client.Operations

/-! # Operations in place

    A caller keeps an entity in a variable and asks a client to create, change
    or delete its resource.  Such an operation reads the variable when it
    begins and writes it as it goes on, and what it has written is there even
    if it fails later.

    `Client.insert`, `Client.update`, `Client.delete` and `Client.save` are
    the same operations for a caller who wants the entity as a result.  That
    the two forms agree is the law of each operation at the end: a failure
    leaves the variable as it was.
-/

namespace ResourceFeed

/-- An operation of a client on an entity in a variable. -/
abbrev InPlace (σ α : Type) := ExceptT Failure (StateT Tracked (StateM (Link σ))) α

namespace InPlace

variable {σ α β : Type}

/-- Runs an operation on a variable and a link: the outcome, and what is left in both. -/
def runOn (operation : InPlace σ α) (tracked : Tracked) (link : Link σ) :
    Except Failure α × Tracked × Link σ :=
  let ((outcome, tracked), link) := ((ExceptT.run operation).run tracked).run link
  (outcome, tracked, link)

/-- An operation on the link alone. -/
def exchange (part : Exchange σ α) : InPlace σ α :=
  ExceptT.mk fun tracked link =>
    let (outcome, link) := part.runOn link
    ((outcome, tracked), link)

/-- The entity in the variable. -/
def entity : InPlace σ Tracked :=
  getThe Tracked

/-- Changes the entity in the variable. -/
def modifyEntity (change : Tracked → Tracked) : InPlace σ Unit :=
  modifyThe Tracked change

/-! ## Laws -/

@[simp] theorem runOn_pure (value : α) (tracked : Tracked) (link : Link σ) :
    (pure value : InPlace σ α).runOn tracked link = (.ok value, tracked, link) := rfl

@[simp] theorem runOn_throw (failure : Failure) (tracked : Tracked) (link : Link σ) :
    (throw failure : InPlace σ α).runOn tracked link = (.error failure, tracked, link) := rfl

/-- Two operations in turn: the second one finds the variable and the link as the first one leaves
    them, unless that fails. -/
theorem runOn_bind (operation : InPlace σ α) (next : α → InPlace σ β) (tracked : Tracked)
    (link : Link σ) :
    (operation >>= next).runOn tracked link =
      match operation.runOn tracked link with
      | (.ok value, tracked, link) => (next value).runOn tracked link
      | (.error failure, tracked, link) => (.error failure, tracked, link) := by
  unfold runOn
  rw [ExceptT.run_bind, StateT.run_bind, StateT.run_bind]
  rcases ((ExceptT.run operation).run tracked).run link with ⟨⟨outcome, tracked'⟩, link'⟩
  cases outcome with
  | ok value => rfl
  | error failure => rfl

@[simp] theorem runOn_exchange (part : Exchange σ α) (tracked : Tracked) (link : Link σ) :
    (exchange part).runOn tracked link =
      ((part.runOn link).1, tracked, (part.runOn link).2) := rfl

@[simp] theorem runOn_entity (tracked : Tracked) (link : Link σ) :
    (entity : InPlace σ Tracked).runOn tracked link = (.ok tracked, tracked, link) := rfl

/-- What an operation in place comes to if the same operation with a result comes to an outcome:
    the variable holds the entity that came of it, or else what it held before. -/
def written (tracked : Tracked) :
    Except Failure Tracked × Link σ → Except Failure Unit × Tracked × Link σ
  | (.ok after, link) => (.ok (), after, link)
  | (.error failure, link) => (.error failure, tracked, link)

@[simp] theorem link_written (tracked : Tracked) (result : Except Failure Tracked × Link σ) :
    (written tracked result).2.2 = result.2 := by
  obtain ⟨outcome, link⟩ := result
  cases outcome <;> rfl

/-- Both forms of an operation begin with the same work on the link. -/
theorem runOn_exchange_bind {part : Exchange σ α} {next : α → InPlace σ Unit}
    {next' : α → Exchange σ Tracked} {tracked : Tracked} {link : Link σ}
    (hnext : ∀ value link, (next value).runOn tracked link
      = written tracked ((next' value).runOn link)) :
    (exchange part >>= next).runOn tracked link =
      written tracked ((part >>= next').runOn link) := by
  rw [runOn_bind, runOn_exchange, Exchange.runOn_bind]
  rcases part.runOn link with ⟨outcome, link'⟩
  cases outcome with
  | ok value => exact hnext value link'
  | error failure => rfl

end InPlace

namespace Client

open InPlace (entity exchange modifyEntity)

variable {σ : Type}

/-- Creates a resource from the new entity in the variable. -/
def insertInPlace [Peer σ] (client : Client) : InPlace σ Unit := do
  let tracked ← entity
  if tracked.state ≠ .new then throw (.invalidState .insert tracked.state false)
  let kind := tracked.entity.type.kind
  let url ← exchange (.ofExcept (client.site.collectionUrl kind))
  let body := (Entry.ofPayload (payload tracked.writableFields)).encode
  let response ← exchange (sendChange ⟨.post, url, mediaType, none, some body⟩)
  let created ← exchange (.ofExcept (Entry.decode response.body))
  match created.key with
  | none => throw (.document .keyMissing)
  | some key =>
    exchange (remember ⟨kind, key⟩ (created.version.or response.etag))
    modifyEntity fun tracked => tracked.persist (some key)

/-- Sends the changed fields of the persisted entity in the variable, if there are any. -/
def updateInPlace [Peer σ] (client : Client) : InPlace σ Unit := do
  let tracked ← entity
  let state := tracked.state
  if state = .new ∨ state = .deleted then throw (.invalidState .update state false)
  if tracked.changes.isEmpty then return
  let identity ← exchange (.ofExcept (knownIdentity tracked .update))
  let url ← exchange (.ofExcept (client.site.singleUrl identity.kind identity.id))
  let token ← exchange (ifMatch identity)
  let response ← exchange (sendChange (updateRequest tracked url token))
  exchange (remember identity ((answeredVersion response).or response.etag))
  modifyEntity fun tracked => tracked.persist none

/-- Deletes the resource of the persisted entity in the variable. -/
def deleteInPlace [Peer σ] (client : Client) : InPlace σ Unit := do
  let tracked ← entity
  let state := tracked.state
  if state = .new ∨ state = .deleted then throw (.invalidState .delete state false)
  let identity ← exchange (.ofExcept (knownIdentity tracked .delete))
  let url ← exchange (.ofExcept (client.site.singleUrl identity.kind identity.id))
  let token ← exchange (ifMatch identity)
  let _ ← exchange (sendChange ⟨.delete, url, mediaType, some token, none⟩)
  exchange (.modifyVersions fun versions => versions.remove identity)
  modifyEntity fun tracked => tracked.asDeleted

/-- Creates or updates, as the state of the entity in the variable asks for. -/
def saveInPlace [Peer σ] (client : Client) : InPlace σ Unit := do
  match (← entity).state with
  | .new => client.insertInPlace
  | .modified => client.updateInPlace
  | .unmodified => pure ()
  | .deleted => throw (.invalidState .save .deleted false)

/-- The operation that goes by a name. -/
def perform [Peer σ] (client : Client) (operation : Operation) : InPlace σ Unit :=
  match operation with
  | .save => client.saveInPlace
  | .insert => client.insertInPlace
  | .update => client.updateInPlace
  | .delete => client.deleteInPlace

/-! ## The two forms of an operation agree -/

section agreement
variable [Peer σ] (client : Client) (tracked : Tracked) (link : Link σ)

open InPlace (written runOn_exchange_bind)

theorem runOn_insertInPlace :
    client.insertInPlace.runOn tracked link =
      written tracked ((client.insert tracked).runOn link) := by
  unfold insertInPlace insert
  rw [InPlace.runOn_bind, InPlace.runOn_entity]
  by_cases hother : tracked.state ≠ .new
  · simp only [if_pos hother]
    rfl
  simp only [if_neg hother]
  apply runOn_exchange_bind
  intro url link
  apply runOn_exchange_bind
  intro response link
  apply runOn_exchange_bind
  intro created link
  cases created.key with
  | none => rfl
  | some key =>
    apply runOn_exchange_bind
    intro _ link
    rfl

theorem runOn_updateInPlace :
    client.updateInPlace.runOn tracked link =
      written tracked ((client.update tracked).runOn link) := by
  unfold updateInPlace update
  rw [InPlace.runOn_bind, InPlace.runOn_entity]
  by_cases hbarred : tracked.state = .new ∨ tracked.state = .deleted
  · simp only [hbarred, if_true]
    rfl
  simp only [hbarred, if_false]
  cases tracked.changes.isEmpty with
  | true => rfl
  | false =>
    simp only [Bool.false_eq_true, if_false]
    apply runOn_exchange_bind
    intro identity link
    apply runOn_exchange_bind
    intro url link
    apply runOn_exchange_bind
    intro token link
    apply runOn_exchange_bind
    intro response link
    apply runOn_exchange_bind
    intro _ link
    rfl

theorem runOn_deleteInPlace :
    client.deleteInPlace.runOn tracked link =
      written tracked ((client.delete tracked).runOn link) := by
  unfold deleteInPlace delete
  rw [InPlace.runOn_bind, InPlace.runOn_entity]
  by_cases hbarred : tracked.state = .new ∨ tracked.state = .deleted
  · simp only [hbarred, if_true]
    rfl
  simp only [hbarred, if_false]
  apply runOn_exchange_bind
  intro identity link
  apply runOn_exchange_bind
  intro url link
  apply runOn_exchange_bind
  intro token link
  apply runOn_exchange_bind
  intro response link
  apply runOn_exchange_bind
  intro _ link
  rfl

theorem runOn_saveInPlace :
    client.saveInPlace.runOn tracked link = written tracked ((client.save tracked).runOn link) := by
  unfold saveInPlace save
  rw [InPlace.runOn_bind, InPlace.runOn_entity]
  simp only
  cases tracked.state with
  | new => exact client.runOn_insertInPlace tracked link
  | unmodified => rfl
  | modified => exact client.runOn_updateInPlace tracked link
  | deleted => rfl

end agreement

end Client

end ResourceFeed
