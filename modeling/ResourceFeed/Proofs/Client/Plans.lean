import ResourceFeed.Client.InPlace
import ResourceFeed.Proofs.Client.Operations

/-! # What an operation amounts to

    All operations on one resource have one form.  Before anything is sent
    there is a *plan*: the operation is ruled out, or there is nothing to do,
    or there is a *task* to be sent.  The versions that the client knows are
    used in one place only, for the version that is sent along with the
    identity that the task names as its guard.  What comes of the task is a
    *conclusion* from the answer: a failure, or the entity afterwards with at
    most one *note* for the version store.

    So an operation is known when its plan is.  Later proofs rewrite with
    `runOn_perform` and `runOn_get`, and never open an operation.
-/

namespace ResourceFeed

/-! ### Notes -/

/-- What is noted down in the version store. -/
inductive Note where
  | recorded (identity : Identity) (version : String)
  | dropped (identity : Identity)

/-- The identity that a note is about. -/
def Note.identity : Note → Identity
  | .recorded identity _ => identity
  | .dropped identity => identity

/-- The note on a version under an identity, if there are both. -/
def Note.ofVersion? (identity : Option Identity) (version : Option String) : Option Note :=
  match identity, version with
  | some identity, some version => some (.recorded identity version)
  | _, _ => none

/-- The store with a note taken down. -/
def VersionStore.noting (versions : VersionStore) : Option Note → VersionStore
  | none => versions
  | some (.recorded identity version) => versions.insert identity version
  | some (.dropped identity) => versions.remove identity

/-- The token that a note leaves under its identity. -/
def Note.token? : Note → Option String
  | .recorded _ version => some version
  | .dropped _ => none

namespace VersionStore

@[simp] theorem capacity_noting (versions : VersionStore) (note : Option Note) :
    (versions.noting note).capacity = versions.capacity := by
  cases note with
  | none => rfl
  | some note => cases note <;> rfl

/-- A note changes the token of its identity and no other, if the store has no bound. -/
theorem get?_noting_some {versions : VersionStore} (hunbounded : versions.capacity = none)
    (note : Note) (identity : Identity) :
    (versions.noting (some note)).get? identity =
      if note.identity = identity then note.token? else versions.get? identity := by
  cases note with
  | recorded recorded version => exact get?_insert_of_unbounded hunbounded recorded identity version
  | dropped dropped => exact get?_remove versions dropped identity

/-- A note on another identity changes nothing. -/
theorem get?_noting_of_other {versions : VersionStore} (hunbounded : versions.capacity = none)
    {note : Option Note} {identity : Identity}
    (hother : ∀ taken, note = some taken → taken.identity ≠ identity) :
    (versions.noting note).get? identity = versions.get? identity := by
  cases note with
  | none => rfl
  | some taken => rw [get?_noting_some hunbounded, if_neg (hother taken rfl)]

end VersionStore

/-- Remembering the version of an entry is taking down a note on it. -/
theorem rememberVersion_eq_noting (versions : VersionStore) (tracked : Tracked) (entry : Entry) :
    rememberVersion versions tracked entry =
      versions.noting (Note.ofVersion? tracked.identity? entry.version) := by
  unfold rememberVersion Note.ofVersion?
  cases tracked.identity? with
  | none => rfl
  | some identity =>
    cases entry.version with
    | none => rfl
    | some version => rfl

/-! ### Conclusions -/

/-- What is concluded from an answer. -/
inductive Conclusion where
  | failed (failure : Failure)
  /-- The entity afterwards, and what is noted. -/
  | done (tracked : Tracked) (note : Option Note)

namespace Conclusion

/-- The outcome that a caller gets. -/
def outcome : Conclusion → Except Failure Tracked
  | .failed failure => .error failure
  | .done tracked _ => .ok tracked

/-- What is noted; a failure notes nothing. -/
def note? : Conclusion → Option Note
  | .failed _ => none
  | .done _ note => note

/-- A conclusion with another one drawn from a result, if there is one. -/
def ofExcept {α : Type} (outcome : Except Failure α) (next : α → Conclusion) : Conclusion :=
  match outcome with
  | .error failure => .failed failure
  | .ok value => next value

end Conclusion

/-- The link after something was concluded on it, with the outcome. -/
def Link.concluding {σ : Type} (link : Link σ) (conclusion : Conclusion) :
    Except Failure Tracked × Link σ :=
  (conclusion.outcome, { link with versions := link.versions.noting conclusion.note? })

/-! ### Plans -/

/-- What an operation sends, and what it concludes from the answer. -/
structure Task where
  method : Method
  url : String
  /-- The identity whose version is sent along. -/
  guard : Option Identity
  body : Option String
  conclude : Except Failure Response → Conclusion

/-- The request of a task, with the version that is known. -/
def Task.request (task : Task) (versions : VersionStore) : Request :=
  ⟨task.method, task.url, mediaType,
    task.guard.map fun identity => (versions.get? identity).getD "", task.body⟩

/-- What an operation sets out to do. -/
inductive Plan where
  | ruledOut (failure : Failure)
  /-- There is nothing to send, and the entity stays as it is. -/
  | nothing (tracked : Tracked)
  | send (task : Task)

namespace Plan

/-- A plan that depends on a result, if there is one. -/
def ofExcept {α : Type} (outcome : Except Failure α) (next : α → Plan) : Plan :=
  match outcome with
  | .error failure => .ruledOut failure
  | .ok value => next value

/-- The identity whose version is sent along. -/
def guard? : Plan → Option Identity
  | .send task => task.guard
  | _ => none

/-- The request that is sent, if there is one. -/
def request? (plan : Plan) (versions : VersionStore) : Option Request :=
  match plan with
  | .send task => some (task.request versions)
  | _ => none

variable {σ : Type} [Peer σ]

/-- What is concluded in the end. -/
def conclusion (plan : Plan) (link : Link σ) : Conclusion :=
  match plan with
  | .ruledOut failure => .failed failure
  | .nothing tracked => .done tracked none
  | .send task => task.conclude (Peer.answer (task.request link.versions) link.peer).1

/-- What a plan comes to. -/
def runOn (plan : Plan) (link : Link σ) : Except Failure Tracked × Link σ :=
  let asked := match plan.request? link.versions with
    | some request => link.sending request
    | none => link
  asked.concluding (plan.conclusion link)

theorem outcome_runOn (plan : Plan) (link : Link σ) :
    (plan.runOn link).1 = (plan.conclusion link).outcome := rfl

theorem versions_runOn (plan : Plan) (link : Link σ) :
    (plan.runOn link).2.versions = link.versions.noting (plan.conclusion link).note? := by
  cases plan with
  | ruledOut failure => rfl
  | nothing tracked => rfl
  | send task => rfl

/-- A plan that depends on a result does what an operation with this result does. -/
theorem runOn_ofExcept {α : Type} {outcome : Except Failure α} {next : α → Exchange σ Tracked}
    {plan : α → Plan} {link : Link σ}
    (hnext : ∀ value, (next value).runOn link = (plan value).runOn link) :
    (Exchange.ofExcept outcome >>= next).runOn link = (ofExcept outcome plan).runOn link := by
  rw [Exchange.runOn_bind, Exchange.runOn_ofExcept]
  cases outcome with
  | error failure => rfl
  | ok value => exact hnext value

/-- A plan that depends on a result and is not ruled out has the result. -/
theorem exists_of_ofExcept {α : Type} {outcome : Except Failure α} {next : α → Plan} {plan : Plan}
    (hplan : ofExcept outcome next = plan) (hopen : ∀ failure, plan ≠ .ruledOut failure) :
    ∃ value, outcome = .ok value ∧ next value = plan := by
  cases outcome with
  | error failure => exact absurd hplan.symm (hopen failure)
  | ok value => exact ⟨value, rfl, hplan⟩

/-- A plan that sends a request has a task for it. -/
theorem eq_send_of_request? {plan : Plan} {versions : VersionStore} {request : Request}
    (hsent : plan.request? versions = some request) :
    ∃ task, plan = .send task ∧ request = task.request versions := by
  cases plan with
  | ruledOut failure => cases hsent
  | nothing tracked => cases hsent
  | send task =>
    cases hsent
    exact ⟨task, rfl, rfl⟩

end Plan

/-! ### The requests of a plan -/

/-- The requests that were sent between two links. -/
def Link.sentSince {σ : Type} (before after : Link σ) : List Request :=
  after.sent.drop before.sent.length

theorem Plan.sent_runOn {σ : Type} [Peer σ] (plan : Plan) (link : Link σ) :
    (plan.runOn link).2.sent = link.sent ++ (plan.request? link.versions).toList := by
  cases plan with
  | ruledOut failure => exact (List.append_nil _).symm
  | nothing tracked => exact (List.append_nil _).symm
  | send task => rfl

theorem Plan.sentSince_runOn {σ : Type} [Peer σ] (plan : Plan) (link : Link σ) :
    link.sentSince (plan.runOn link).2 = (plan.request? link.versions).toList := by
  rw [Link.sentSince, sent_runOn, List.drop_left]

namespace Client

open Exchange

/-! ### The plans of the operations -/

/-- What is concluded from the answer to a change: it has to accept the change. -/
def concludeChange (accepted : Response → Conclusion) (answer : Except Failure Response) :
    Conclusion :=
  .ofExcept (changeOutcome answer) accepted

/-- The task of creating a resource.  The answer must name it. -/
def insertTask (tracked : Tracked) (url : String) : Task where
  method := .post
  url := url
  guard := none
  body := some (Entry.ofPayload (payload tracked.writableFields)).encode
  conclude := concludeChange fun response =>
    .ofExcept (Entry.decode response.body) fun created =>
      match created.key with
      | none => .failed (.document .keyMissing)
      | some key =>
        .done (tracked.persist (some key)) (Note.ofVersion?
          (some ⟨tracked.entity.type.kind, key⟩) (created.version.or response.etag))

/-- The task of sending the changed fields. -/
def updateTask (tracked : Tracked) (identity : Identity) (url : String) : Task where
  method := .put
  url := url
  guard := some identity
  body := some (Entry.ofPayload (payload tracked.changes)).encode
  conclude := concludeChange fun response =>
    .done (tracked.persist none)
      (Note.ofVersion? (some identity) ((answeredVersion response).or response.etag))

/-- The task of deleting a resource. -/
def deleteTask (tracked : Tracked) (identity : Identity) (url : String) : Task where
  method := .delete
  url := url
  guard := some identity
  body := none
  conclude := concludeChange fun _ => .done tracked.asDeleted (some (.dropped identity))

/-- The plan of sending a task for the known resource of an entity. -/
def knownPlan (client : Client) (tracked : Tracked) (operation : Operation)
    (task : Identity → String → Task) : Plan :=
  .ofExcept (knownIdentity tracked operation) fun identity =>
    .ofExcept (client.site.singleUrl identity.kind identity.id) fun url => .send (task identity url)

/-- The plan of creating a resource. -/
def insertPlan (client : Client) (tracked : Tracked) : Plan :=
  if tracked.state ≠ .new then .ruledOut (.invalidState .insert tracked.state false)
  else .ofExcept (client.site.collectionUrl tracked.entity.type.kind) fun url =>
    .send (insertTask tracked url)

/-- The plan of sending the changed fields. -/
def updatePlan (client : Client) (tracked : Tracked) : Plan :=
  if tracked.state = .new ∨ tracked.state = .deleted then
    .ruledOut (.invalidState .update tracked.state false)
  else if tracked.changes.isEmpty then .nothing tracked
  else client.knownPlan tracked .update (updateTask tracked)

/-- The plan of deleting a resource. -/
def deletePlan (client : Client) (tracked : Tracked) : Plan :=
  if tracked.state = .new ∨ tracked.state = .deleted then
    .ruledOut (.invalidState .delete tracked.state false)
  else client.knownPlan tracked .delete (deleteTask tracked)

/-- The plan of creating or updating, as the state of the entity asks for. -/
def savePlan (client : Client) (tracked : Tracked) : Plan :=
  match tracked.state with
  | .new => client.insertPlan tracked
  | .modified => client.updatePlan tracked
  | .unmodified => .nothing tracked
  | .deleted => .ruledOut (.invalidState .save .deleted false)

/-- The plan of an operation. -/
def plan (client : Client) (operation : Operation) (tracked : Tracked) : Plan :=
  match operation with
  | .save => client.savePlan tracked
  | .insert => client.insertPlan tracked
  | .update => client.updatePlan tracked
  | .delete => client.deletePlan tracked

/-- The tasks that come of an entity and an operation. -/
inductive Sends (client : Client) (tracked : Tracked) : Operation → Task → Prop where
  | insert {operation url} (hoperation : operation ≠ .delete) (hnew : tracked.state = .new)
      (haddress : client.site.collectionUrl tracked.entity.type.kind = .ok url) :
      Sends client tracked operation (insertTask tracked url)
  | update {operation identity url} (hoperation : operation ≠ .delete)
      (hpersisted : tracked.lifecycle = .persisted) (hchanged : tracked.changes.isEmpty = false)
      (hknown : tracked.identity? = some identity)
      (haddress : client.site.singleUrl identity.kind identity.id = .ok url) :
      Sends client tracked operation (updateTask tracked identity url)
  | delete {identity url} (hknown : tracked.identity? = some identity)
      (haddress : client.site.singleUrl identity.kind identity.id = .ok url) :
      Sends client tracked .delete (deleteTask tracked identity url)

section sends
variable {client : Client} {tracked : Tracked} {task : Task}

/-- An entity that is neither new nor deleted is persisted. -/
theorem lifecycle_of_state (hstate : ¬(tracked.state = .new ∨ tracked.state = .deleted)) :
    tracked.lifecycle = .persisted := by
  unfold Tracked.state at hstate
  cases hlifecycle : tracked.lifecycle with
  | new => simp [hlifecycle] at hstate
  | persisted => rfl
  | deleted => simp [hlifecycle] at hstate

/-- Only a new entity has the state of one. -/
theorem lifecycle_of_new (hstate : tracked.state = .new) : tracked.lifecycle = .new := by
  unfold Tracked.state at hstate
  cases hlifecycle : tracked.lifecycle with
  | new => rfl
  | persisted =>
    simp only [hlifecycle] at hstate
    split at hstate <;> cases hstate
  | deleted =>
    rw [hlifecycle] at hstate
    cases hstate

theorem eq_of_send_of_knownPlan {operation : Operation} {toTask : Identity → String → Task}
    (hplan : client.knownPlan tracked operation toTask = .send task) :
    ∃ identity url, tracked.identity? = some identity ∧
      client.site.singleUrl identity.kind identity.id = .ok url ∧ task = toTask identity url := by
  obtain ⟨identity, hknown, hplan⟩ := Plan.exists_of_ofExcept hplan (by simp)
  obtain ⟨url, haddress, hplan⟩ := Plan.exists_of_ofExcept hplan (by simp)
  unfold knownIdentity at hknown
  cases hidentity : tracked.identity? with
  | none =>
    rw [hidentity] at hknown
    cases hknown
  | some found =>
    rw [hidentity] at hknown
    cases hknown
    cases hplan
    exact ⟨identity, url, rfl, haddress, rfl⟩

theorem sends_of_insertPlan {operation : Operation} (hoperation : operation ≠ .delete)
    (hplan : client.insertPlan tracked = .send task) : client.Sends tracked operation task := by
  unfold insertPlan at hplan
  by_cases hother : tracked.state ≠ .new
  · rw [if_pos hother] at hplan
    cases hplan
  rw [if_neg hother] at hplan
  obtain ⟨url, haddress, hplan⟩ := Plan.exists_of_ofExcept hplan (by simp)
  cases hplan
  exact .insert hoperation (Decidable.not_not.mp hother) haddress

theorem sends_of_updatePlan {operation : Operation} (hoperation : operation ≠ .delete)
    (hplan : client.updatePlan tracked = .send task) : client.Sends tracked operation task := by
  unfold updatePlan at hplan
  by_cases hbarred : tracked.state = .new ∨ tracked.state = .deleted
  · rw [if_pos hbarred] at hplan
    cases hplan
  rw [if_neg hbarred] at hplan
  cases hchanged : tracked.changes.isEmpty with
  | true =>
    rw [hchanged] at hplan
    cases hplan
  | false =>
    rw [hchanged] at hplan
    obtain ⟨identity, url, hknown, haddress, rfl⟩ := eq_of_send_of_knownPlan hplan
    exact .update hoperation (lifecycle_of_state hbarred) hchanged hknown haddress

theorem sends_of_deletePlan (hplan : client.deletePlan tracked = .send task) :
    client.Sends tracked .delete task := by
  unfold deletePlan at hplan
  by_cases hbarred : tracked.state = .new ∨ tracked.state = .deleted
  · rw [if_pos hbarred] at hplan
    cases hplan
  rw [if_neg hbarred] at hplan
  obtain ⟨identity, url, hknown, haddress, rfl⟩ := eq_of_send_of_knownPlan hplan
  exact .delete hknown haddress

/-- A plan sends one of the tasks in `Sends`. -/
theorem sends_of_plan {operation : Operation} (hplan : client.plan operation tracked = .send task) :
    client.Sends tracked operation task := by
  cases operation with
  | save =>
    have hsave : client.savePlan tracked = .send task := hplan
    unfold savePlan at hsave
    cases hstate : tracked.state with
    | new =>
      rw [hstate] at hsave
      exact sends_of_insertPlan nofun hsave
    | unmodified =>
      rw [hstate] at hsave
      cases hsave
    | modified =>
      rw [hstate] at hsave
      exact sends_of_updatePlan nofun hsave
    | deleted =>
      rw [hstate] at hsave
      cases hsave
  | insert => exact sends_of_insertPlan nofun hplan
  | update => exact sends_of_updatePlan nofun hplan
  | delete => exact sends_of_deletePlan hplan

theorem knownPlan_ne_nothing {operation : Operation} {toTask : Identity → String → Task}
    {after : Tracked} : client.knownPlan tracked operation toTask ≠ .nothing after := by
  intro hplan
  obtain ⟨identity, hknown, hplan⟩ := Plan.exists_of_ofExcept hplan (by simp)
  obtain ⟨url, haddress, hplan⟩ := Plan.exists_of_ofExcept hplan (by simp)
  cases hplan

theorem insertPlan_ne_nothing {after : Tracked} : client.insertPlan tracked ≠ .nothing after := by
  intro hplan
  unfold insertPlan at hplan
  split at hplan
  · cases hplan
  · obtain ⟨url, haddress, hplan⟩ := Plan.exists_of_ofExcept hplan (by simp)
    cases hplan

theorem deletePlan_ne_nothing {after : Tracked} : client.deletePlan tracked ≠ .nothing after := by
  intro hplan
  unfold deletePlan at hplan
  split at hplan
  · cases hplan
  · exact knownPlan_ne_nothing hplan

theorem unchanged_of_updatePlan {after : Tracked}
    (hplan : client.updatePlan tracked = .nothing after) :
    after = tracked ∧ tracked.lifecycle = .persisted ∧ tracked.changes.isEmpty = true := by
  unfold updatePlan at hplan
  by_cases hbarred : tracked.state = .new ∨ tracked.state = .deleted
  · rw [if_pos hbarred] at hplan
    cases hplan
  rw [if_neg hbarred] at hplan
  cases hchanged : tracked.changes.isEmpty with
  | true =>
    rw [hchanged] at hplan
    cases hplan
    exact ⟨rfl, lifecycle_of_state hbarred, rfl⟩
  | false =>
    rw [hchanged] at hplan
    exact absurd hplan knownPlan_ne_nothing

/-- An entity that is not modified has nothing to send. -/
theorem changes_of_unmodified (hstate : tracked.state = .unmodified) :
    tracked.changes.isEmpty = true := by
  unfold Tracked.state at hstate
  split at hstate
  · cases hstate
  · cases hstate
  · split at hstate
    · assumption
    · cases hstate

/-- There is nothing to send only for a persisted entity that has not changed. -/
theorem unchanged_of_plan {operation : Operation} {after : Tracked}
    (hplan : client.plan operation tracked = .nothing after) :
    after = tracked ∧ tracked.lifecycle = .persisted ∧ tracked.changes.isEmpty = true := by
  cases operation with
  | save =>
    have hsave : client.savePlan tracked = .nothing after := hplan
    unfold savePlan at hsave
    cases hstate : tracked.state with
    | new =>
      rw [hstate] at hsave
      exact absurd hsave insertPlan_ne_nothing
    | unmodified =>
      rw [hstate] at hsave
      cases hsave
      exact ⟨rfl, lifecycle_of_state (by simp [hstate]), changes_of_unmodified hstate⟩
    | modified =>
      rw [hstate] at hsave
      exact unchanged_of_updatePlan hsave
    | deleted =>
      rw [hstate] at hsave
      cases hsave
  | insert => exact absurd hplan insertPlan_ne_nothing
  | update => exact unchanged_of_updatePlan hplan
  | delete => exact absurd hplan deletePlan_ne_nothing

/-- All these tasks fail if the answer does not accept the change. -/
theorem Sends.conclude_of_refused {operation : Operation}
    (hsends : client.Sends tracked operation task) {answer : Except Failure Response}
    {failure : Failure} (hanswer : changeOutcome answer = .error failure) :
    task.conclude answer = .failed failure := by
  have hrefused : ∀ accepted, concludeChange accepted answer = .failed failure := by
    intro accepted
    rw [concludeChange.eq_def, hanswer]
    rfl
  cases hsends with
  | insert hoperation hnew haddress => exact hrefused _
  | update hoperation hpersisted hchanged hknown haddress => exact hrefused _
  | delete hknown haddress => exact hrefused _

/-- The key that the answer to a creation gives, if it is an entry with one. -/
def createdKey? (response : Response) : Option String :=
  match Entry.decode response.body with
  | .ok created => created.key
  | .error _ => none

section creation
variable {url : String} {answer : Except Failure Response} {response : Response}

/-- An accepted creation fails if the answer does not name the resource. -/
theorem conclude_insertTask_of_unnamed (hanswer : changeOutcome answer = .ok response)
    (hkey : createdKey? response = none) :
    ∃ failure, (insertTask tracked url).conclude answer = .failed failure := by
  unfold insertTask concludeChange
  unfold createdKey? at hkey
  simp only [hanswer, Conclusion.ofExcept]
  cases hdecode : Entry.decode response.body with
  | error failure => exact ⟨failure, rfl⟩
  | ok created =>
    rw [hdecode] at hkey
    simp only at hkey
    simp only [hkey]
    exact ⟨_, rfl⟩

/-- It succeeds with an entry that has a key. -/
theorem conclude_insertTask_of_entry (hanswer : changeOutcome answer = .ok response)
    {created : Entry} (hentry : Entry.decode response.body = .ok created) {key : String}
    (hkey : created.key = some key) :
    (insertTask tracked url).conclude answer = .done (tracked.persist (some key))
      (Note.ofVersion? (some ⟨tracked.entity.type.kind, key⟩)
        (created.version.or response.etag)) := by
  unfold insertTask concludeChange
  simp only [hanswer, Conclusion.ofExcept, hentry, hkey]

/-- So it succeeds if the answer names the resource. -/
theorem conclude_insertTask_of_named (hanswer : changeOutcome answer = .ok response) {key : String}
    (hkey : createdKey? response = some key) :
    ∃ note, (insertTask tracked url).conclude answer = .done (tracked.persist (some key)) note := by
  unfold createdKey? at hkey
  cases hentry : Entry.decode response.body with
  | error failure =>
    rw [hentry] at hkey
    cases hkey
  | ok created =>
    rw [hentry] at hkey
    exact ⟨_, conclude_insertTask_of_entry hanswer hentry hkey⟩

/-- An accepted creation fails, or it succeeds and the resource has a key. -/
theorem conclude_insertTask (hanswer : changeOutcome answer = .ok response) :
    (∃ failure, (insertTask tracked url).conclude answer = .failed failure) ∨
      ∃ key note, (insertTask tracked url).conclude answer =
        .done (tracked.persist (some key)) note := by
  cases hkey : createdKey? response with
  | none => exact .inl (conclude_insertTask_of_unnamed hanswer hkey)
  | some key => exact .inr ⟨key, conclude_insertTask_of_named hanswer hkey⟩

end creation

/-- An accepted update succeeds. -/
theorem conclude_updateTask {identity : Identity} {url : String} {answer : Except Failure Response}
    {response : Response} (hanswer : changeOutcome answer = .ok response) :
    ∃ note, (updateTask tracked identity url).conclude answer =
      .done (tracked.persist none) note := by
  unfold updateTask concludeChange
  simp only [hanswer, Conclusion.ofExcept]
  exact ⟨_, rfl⟩

end sends

/-- What a received entry comes to. -/
def concludeEntry (client : Client) (type : EntityType) (entry : Entry) : Conclusion :=
  .ofExcept (materialize client.resolver type entry) fun tracked =>
    .done tracked (Note.ofVersion? tracked.identity? entry.version)

/-- The task of reading a resource.  The header gives the version if the body does not. -/
def getTask (client : Client) (type : EntityType) (url : String) : Task where
  method := .get
  url := url
  guard := none
  body := none
  conclude := fun answer =>
    .ofExcept answer fun response => .ofExcept response.accepted fun response =>
      .ofExcept (Entry.decode response.body) fun entry =>
        client.concludeEntry type { entry with version := entry.version.or response.etag }

/-- The plan of reading a resource. -/
def getPlan (client : Client) (type : EntityType) (id : String) : Plan :=
  .ofExcept (client.site.singleUrl type.kind id) fun url => .send (client.getTask type url)

/-! ### Operations follow their plans -/

section operations
variable {σ : Type}

/-- Sending the request of a change and going on as its task does. -/
theorem runOn_sendChange_bind [Peer σ] (task : Task) {accepted : Response → Conclusion}
    {link : Link σ} {request : Request} {next : Response → Exchange σ Tracked}
    (hrequest : task.request link.versions = request)
    (hconclude : task.conclude = concludeChange accepted)
    (hnext : ∀ response link, (next response).runOn link = link.concluding (accepted response)) :
    (sendChange request >>= next).runOn link = (Plan.send task).runOn link := by
  rw [runOn_bind, runOn_sendChange, Plan.runOn, Plan.conclusion, Plan.request?, hconclude,
    hrequest, concludeChange]
  cases changeOutcome (Peer.answer request link.peer).1 with
  | error failure => rfl
  | ok response => exact hnext response _

theorem runOn_remember_noting (identity : Identity) (version : Option String) (link : Link σ) :
    (remember identity version : Exchange σ Unit).runOn link =
      (.ok (), { link with
        versions := link.versions.noting (Note.ofVersion? (some identity) version) }) := by
  cases version with
  | none => rfl
  | some version => rfl

theorem runOn_receive (client : Client) (type : EntityType) (entry : Entry) (link : Link σ) :
    (client.receive type entry).runOn link = link.concluding (client.concludeEntry type entry) := by
  unfold receive concludeEntry
  rw [runOn_bind, runOn_ofExcept]
  cases materialize client.resolver type entry with
  | error failure => rfl
  | ok tracked =>
    simp only
    rw [runOn_bind, runOn_modifyVersions, rememberVersion_eq_noting]
    rfl

variable [Peer σ] (client : Client) (tracked : Tracked) (link : Link σ)

theorem runOn_insert :
    (client.insert tracked).runOn link = (client.insertPlan tracked).runOn link := by
  unfold insert insertPlan
  by_cases hother : tracked.state ≠ .new
  · simp only [if_pos hother]
    rfl
  simp only [if_neg hother]
  apply Plan.runOn_ofExcept
  intro url
  apply runOn_sendChange_bind (insertTask tracked url) rfl rfl
  intro response link
  rw [runOn_bind, runOn_ofExcept]
  cases Entry.decode response.body with
  | error failure => rfl
  | ok created =>
    simp only [Conclusion.ofExcept]
    cases created.key with
    | none => rfl
    | some key =>
      simp only
      rw [runOn_bind, runOn_remember_noting]
      rfl

theorem runOn_update :
    (client.update tracked).runOn link = (client.updatePlan tracked).runOn link := by
  unfold update updatePlan
  by_cases hbarred : tracked.state = .new ∨ tracked.state = .deleted
  · simp only [if_pos hbarred]
    rfl
  simp only [if_neg hbarred]
  cases tracked.changes.isEmpty with
  | true => rfl
  | false =>
    simp only [Bool.false_eq_true, if_false]
    apply Plan.runOn_ofExcept
    intro identity
    apply Plan.runOn_ofExcept
    intro url
    rw [runOn_bind, runOn_ifMatch]
    apply runOn_sendChange_bind (updateTask tracked identity url) rfl rfl
    intro response link
    rw [runOn_bind, runOn_remember_noting]
    rfl

theorem runOn_delete :
    (client.delete tracked).runOn link = (client.deletePlan tracked).runOn link := by
  unfold delete deletePlan
  by_cases hbarred : tracked.state = .new ∨ tracked.state = .deleted
  · simp only [if_pos hbarred]
    rfl
  simp only [if_neg hbarred]
  apply Plan.runOn_ofExcept
  intro identity
  apply Plan.runOn_ofExcept
  intro url
  rw [runOn_bind, runOn_ifMatch]
  apply runOn_sendChange_bind (deleteTask tracked identity url) rfl rfl
  intro response link
  rw [runOn_bind, runOn_modifyVersions]
  rfl

theorem runOn_save :
    (client.save tracked).runOn link = (client.savePlan tracked).runOn link := by
  unfold save savePlan
  cases tracked.state with
  | new => exact client.runOn_insert tracked link
  | unmodified => rfl
  | modified => exact client.runOn_update tracked link
  | deleted => rfl

/-- **Every operation follows its plan**, and writes the entity only if that succeeds. -/
theorem runOn_perform (operation : Operation) :
    (client.perform operation).runOn tracked link =
      InPlace.written tracked ((client.plan operation tracked).runOn link) := by
  cases operation with
  | save =>
    rw [plan, ← runOn_save]
    exact client.runOn_saveInPlace tracked link
  | insert =>
    rw [plan, ← runOn_insert]
    exact client.runOn_insertInPlace tracked link
  | update =>
    rw [plan, ← runOn_update]
    exact client.runOn_updateInPlace tracked link
  | delete =>
    rw [plan, ← runOn_delete]
    exact client.runOn_deleteInPlace tracked link

theorem runOn_get (type : EntityType) (id : String) :
    (client.get type id).runOn link = (client.getPlan type id).runOn link := by
  unfold get
  apply Plan.runOn_ofExcept
  intro url
  have hconclusion : (Plan.send (client.getTask type url)).conclusion link =
      (client.getTask type url).conclude (Peer.answer (Request.read url) link.peer).1 := rfl
  rw [runOn_bind, runOn_send, Plan.runOn, hconclusion, getTask]
  cases (Peer.answer (Request.read url) link.peer).1 with
  | error failure => rfl
  | ok response =>
    simp only [Conclusion.ofExcept]
    rw [runOn_bind, runOn_ofExcept]
    cases response.accepted with
    | error failure => rfl
    | ok response =>
      simp only
      rw [runOn_bind, runOn_ofExcept]
      cases Entry.decode response.body with
      | error failure => rfl
      | ok entry => exact client.runOn_receive type _ _

end operations

end Client

/-! ### Reading feeds -/

/-- What reading an entry of a feed notes down. -/
def entryNote? (resolver : Resolver) (type : EntityType) (entry : Entry) : Option Note :=
  match materialize resolver type entry with
  | .ok tracked => Note.ofVersion? tracked.identity? entry.version
  | .error _ => none

namespace Conversion

theorem entity_snd (resolver : Resolver) (type : EntityType) (entry : Entry)
    (versions : VersionStore) :
    (entity resolver type entry versions).2 = versions.noting (entryNote? resolver type entry) := by
  unfold entity entryNote?
  cases materialize resolver type entry with
  | error failure => rfl
  | ok tracked => exact rememberVersion_eq_noting versions tracked entry

theorem entity_fst (resolver : Resolver) (type : EntityType) (entry : Entry)
    (versions : VersionStore) :
    (entity resolver type entry versions).1 = Run.ofExcept (materialize resolver type entry) := by
  unfold entity
  cases materialize resolver type entry with
  | error failure => rfl
  | ok tracked => rfl

end Conversion

end ResourceFeed
