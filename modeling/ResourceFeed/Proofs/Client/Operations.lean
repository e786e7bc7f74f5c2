import ResourceFeed.Client.Operations
import ResourceFeed.Proofs.Version.Lookup

/-! # What an operation of a client can do

    An operation sends at most one request, and what it leaves in its link
    depends on the answer alone.  For each operation an inductive relation
    lists its outcomes together with the link that it leaves; a lemma says
    that the operation always does one of them.  Later proofs split on these
    cases and never open an operation.
-/

namespace ResourceFeed.Client

open Exchange

variable {σ : Type}

/-! ### Parts of operations -/

theorem runOn_ifMatch (identity : Identity) (link : Link σ) :
    (ifMatch identity : Exchange σ String).runOn link =
      (.ok ((link.versions.get? identity).getD ""), link) := rfl

theorem runOn_remember (identity : Identity) (version : Option String) (link : Link σ) :
    (remember identity version : Exchange σ Unit).runOn link =
      (.ok (), { link with
        versions := version.elim link.versions (link.versions.insert identity) }) := by
  cases version with
  | none => rfl
  | some version => rfl

/-- What comes of the answer to a request that changes something. -/
def changeOutcome : Except Failure Response → Except Failure Response
  | .ok response =>
    if response.isSuccess then .ok response
    else .error (Failure.ofRefusedChange response.status response.text)
  | .error failure => .error failure

theorem runOn_sendChange [Peer σ] (request : Request) (link : Link σ) :
    (sendChange request).runOn link =
      (changeOutcome (Peer.answer request link.peer).1, link.sending request) := by
  unfold sendChange
  rw [runOn_bind, runOn_send]
  cases (Peer.answer request link.peer).1 with
  | error failure => rfl
  | ok response =>
    unfold changeOutcome
    by_cases hsuccess : response.isSuccess = true
    · simp only [hsuccess, if_true, runOn_pure]
    · simp only [hsuccess, Bool.false_eq_true, if_false, runOn_throw]

/-! ### Remembering a version -/

section remembering
variable {resolver : Resolver} {type : EntityType} {entry : Entry} {tracked : Tracked}
  {versions : VersionStore} {identity : Identity} {token version : String}

/-- An entity has the key of the entry that it was read from. -/
theorem key_of_materialize (h : materialize resolver type entry = .ok tracked) :
    tracked.key = entry.key := by
  obtain ⟨_, _, -, -, rfl⟩ := materialize_eq_ok.mp h
  rfl

/-- An entity has the identity that its entry has under the kind of its type. -/
theorem key_of_identity (h : materialize resolver type entry = .ok tracked)
    (hidentity : tracked.identity? = some identity) : entry.key = some identity.id := by
  rw [← key_of_materialize h]
  unfold Tracked.identity? at hidentity
  obtain ⟨key, hkey, hsame⟩ := Option.map_eq_some_iff.mp hidentity
  rw [hkey, ← hsame]

/-- The token of the entity that was read, if it is still there, is the version of its entry. -/
theorem get?_rememberVersion_of_same (hidentity : tracked.identity? = some identity)
    (hversion : entry.version = some version)
    (hget : (rememberVersion versions tracked entry).get? identity = some token) :
    token = version := by
  unfold rememberVersion at hget
  rw [hidentity, hversion] at hget
  exact VersionStore.eq_of_get?_insert hget

/-- The token of any other resource, if it is still there, is what it was. -/
theorem get?_rememberVersion_of_other (hidentity : tracked.identity? ≠ some identity)
    (hget : (rememberVersion versions tracked entry).get? identity = some token) :
    versions.get? identity = some token := by
  unfold rememberVersion at hget
  -- without an identity or a version nothing was remembered
  cases hother : tracked.identity? with
  | none =>
    rw [hother] at hget
    exact hget
  | some other =>
    rw [hother] at hget hidentity
    cases hversion : entry.version with
    | none =>
      rw [hversion] at hget
      exact hget
    | some version =>
      rw [hversion] at hget
      have hne : other ≠ identity := fun h => hidentity (congrArg some h)
      exact VersionStore.get?_of_get?_insert hne hget

end remembering

/-! ### Reading one resource -/

/-- What reading one resource can do. -/
inductive Gets [Peer σ] (client : Client) (type : EntityType) (id : String) (link : Link σ) :
    Except Failure Tracked → Link σ → Prop where
  /-- The kind has no address, and nothing is sent. -/
  | unaddressed {failure} (haddress : client.site.singleUrl type.kind id = .error failure) :
      Gets client type id link (.error failure) link
  /-- There is no answer, or it cannot be used. -/
  | failed {url failure} (haddress : client.site.singleUrl type.kind id = .ok url) :
      Gets client type id link (.error failure) (link.sending (Request.read url))
  /-- The answer holds the resource. -/
  | received {url response entry tracked}
      (haddress : client.site.singleUrl type.kind id = .ok url)
      (hanswer : (Peer.answer (Request.read url) link.peer).1 = .ok response)
      (hsuccess : response.isSuccess = true)
      (hentry : Entry.decode response.body = .ok entry)
      (htracked : materialize client.resolver type
        { entry with version := entry.version.or response.etag } = .ok tracked) :
      Gets client type id link (.ok tracked)
        { link.sending (Request.read url) with
          versions := rememberVersion link.versions tracked
            { entry with version := entry.version.or response.etag } }

/-- Reading one resource does one of the things in `Gets`. -/
theorem get_cases [Peer σ] (client : Client) (type : EntityType) (id : String) (link : Link σ) :
    Gets client type id link ((client.get type id).runOn link).1
      ((client.get type id).runOn link).2 := by
  unfold get
  rw [runOn_bind, runOn_ofExcept]
  cases haddress : client.site.singleUrl type.kind id with
  | error failure => exact .unaddressed haddress
  | ok url =>
    simp only
    rw [runOn_bind, runOn_send]
    cases hanswer : (Peer.answer (Request.read url) link.peer).1 with
    | error failure => exact .failed haddress
    | ok response =>
      simp only
      rw [runOn_bind, runOn_ofExcept]
      unfold Response.accepted
      by_cases hsuccess : response.isSuccess = true
      · simp only [hsuccess, if_true]
        rw [runOn_bind, runOn_ofExcept]
        cases hentry : Entry.decode response.body with
        | error failure => exact .failed haddress
        | ok entry =>
          simp only [receive]
          rw [runOn_bind, runOn_ofExcept]
          cases htracked : materialize client.resolver type
              { entry with version := entry.version.or response.etag } with
          | error failure => exact .failed haddress
          | ok tracked => exact .received haddress hanswer hsuccess hentry htracked
      · -- the status says that there is nothing to decode
        simp only [hsuccess]
        exact .failed haddress

/-- A successful answer that holds the resource is received. -/
theorem get_of_received [Peer σ] {client : Client} {type : EntityType} {id url : String}
    {link : Link σ} {response : Response} {entry : Entry} {tracked : Tracked}
    (haddress : client.site.singleUrl type.kind id = .ok url)
    (hanswer : (Peer.answer (Request.read url) link.peer).1 = .ok response)
    (hsuccess : response.isSuccess = true)
    (hentry : Entry.decode response.body = .ok entry)
    (htracked : materialize client.resolver type
      { entry with version := entry.version.or response.etag } = .ok tracked) :
    (client.get type id).runOn link =
      (.ok tracked, { link.sending (Request.read url) with
        versions := rememberVersion link.versions tracked
          { entry with version := entry.version.or response.etag } }) := by
  simp only [get, receive, runOn_bind, runOn_ofExcept, runOn_send, Response.accepted,
    runOn_modifyVersions, runOn_pure, haddress, hanswer, hsuccess, hentry, htracked, if_true]
  rfl

/-! ### Updating a resource -/

/-- The entity has something to send, and there is an address to send it to. -/
structure HasUpdate (client : Client) (tracked : Tracked) (identity : Identity) (url : String) :
    Prop where
  allowed : ¬ (tracked.state = .new ∨ tracked.state = .deleted)
  changed : tracked.changes.isEmpty = false
  known : tracked.identity? = some identity
  address : client.site.singleUrl identity.kind identity.id = .ok url

/-- The request of an update as the versions of a link have it. -/
def updateOn (link : Link σ) (tracked : Tracked) (identity : Identity) (url : String) : Request :=
  updateRequest tracked url ((link.versions.get? identity).getD "")

/-- What an update can do. -/
inductive Updates [Peer σ] (client : Client) (tracked : Tracked) (link : Link σ) :
    Except Failure Tracked → Link σ → Prop where
  /-- The state of the entity, a missing key or an unknown kind rules it out. -/
  | barred {failure} : Updates client tracked link (.error failure) link
  /-- There is nothing to send. -/
  | unchanged (hchanges : tracked.changes.isEmpty = true) :
      Updates client tracked link (.ok tracked) link
  /-- There is no answer, or it refuses the change. -/
  | refused {identity url failure} (hupdate : HasUpdate client tracked identity url)
      (hanswer : changeOutcome (Peer.answer (updateOn link tracked identity url) link.peer).1
        = .error failure) :
      Updates client tracked link (.error failure)
        (link.sending (updateOn link tracked identity url))
  /-- The server accepts the change, and the version it gives is remembered. -/
  | accepted {identity url response} (hupdate : HasUpdate client tracked identity url)
      (hanswer : (Peer.answer (updateOn link tracked identity url) link.peer).1 = .ok response)
      (hsuccess : response.isSuccess = true) :
      Updates client tracked link (.ok (tracked.persist none))
        { link.sending (updateOn link tracked identity url) with
          versions := ((answeredVersion response).or response.etag).elim link.versions
            (link.versions.insert identity) }

/-- An update does one of the things in `Updates`. -/
theorem update_cases [Peer σ] (client : Client) (tracked : Tracked) (link : Link σ) :
    Updates client tracked link ((client.update tracked).runOn link).1
      ((client.update tracked).runOn link).2 := by
  unfold update
  by_cases hallowed : tracked.state = .new ∨ tracked.state = .deleted
  · simp only [hallowed, if_true]
    exact .barred
  -- the checks that remain, in their order: changes, a key, an address
  simp only [hallowed, if_false]
  cases hchanged : tracked.changes.isEmpty with
  | true =>
    simp only [if_true]
    exact .unchanged hchanged
  | false =>
    simp only [Bool.false_eq_true, if_false]
    rw [runOn_bind, runOn_ofExcept]
    unfold knownIdentity
    cases hknown : tracked.identity? with
    | none => exact .barred
    | some identity =>
      simp only
      rw [runOn_bind, runOn_ofExcept]
      cases haddress : client.site.singleUrl identity.kind identity.id with
      | error failure => exact .barred
      | ok url =>
        have hupdate : HasUpdate client tracked identity url :=
          ⟨hallowed, hchanged, hknown, haddress⟩
        simp only
        rw [runOn_bind, runOn_ifMatch]
        simp only
        rw [runOn_bind, runOn_sendChange, ← updateOn]
        cases hanswer : (Peer.answer (updateOn link tracked identity url) link.peer).1 with
        | error failure => exact .refused hupdate (by rw [hanswer]; rfl)
        | ok response =>
          by_cases hsuccess : response.isSuccess = true
          · simp only [changeOutcome, hsuccess, if_true]
            rw [runOn_bind, runOn_remember]
            exact .accepted hupdate hanswer hsuccess
          · simp only [changeOutcome, hsuccess]
            exact .refused hupdate (by rw [hanswer, changeOutcome, if_neg hsuccess])

/-- A successful answer accepts the update. -/
theorem update_of_accepted [Peer σ] {client : Client} {tracked : Tracked} {link : Link σ}
    {identity : Identity} {url : String} {response : Response}
    (hupdate : HasUpdate client tracked identity url)
    (hanswer : (Peer.answer (updateOn link tracked identity url) link.peer).1 = .ok response)
    (hsuccess : response.isSuccess = true) :
    (client.update tracked).runOn link =
      (.ok (tracked.persist none), { link.sending (updateOn link tracked identity url) with
        versions := ((answeredVersion response).or response.etag).elim link.versions
          (link.versions.insert identity) }) := by
  obtain ⟨hallowed, hchanged, hknown, haddress⟩ := hupdate
  unfold updateOn at hanswer ⊢
  simp only [update, hallowed, hchanged, Bool.false_eq_true, if_false, knownIdentity, hknown,
    runOn_bind, runOn_ofExcept, haddress, runOn_ifMatch, runOn_sendChange, hanswer, changeOutcome,
    hsuccess, if_true, runOn_remember, runOn_pure]
  rfl

end ResourceFeed.Client
