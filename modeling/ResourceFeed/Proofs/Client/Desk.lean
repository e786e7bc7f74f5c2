import ResourceFeed.Client.Feed
import ResourceFeed.Client.Seat
import ResourceFeed.Proofs.Client.Cursor
import ResourceFeed.Proofs.Client.Plans

/-! # One client at work

    A *desk* is what one client of a program works with: the server that it
    talks to, the requests that it has sent, the entities that the program
    holds, and the feeds that it reads.  A *move* is one thing that the
    program does with them.  The version store is not on the desk, because
    clients may share it.

    The store and the desk meet in two places, and these are the two results
    of this file.  A move takes at most one note for the store
    (`versions_act`), and it uses the store only for the version under the
    identity that it guards (`act_congr`).
-/

namespace ResourceFeed

/-- A feed that is being read: its entities, or the values of a selector for them, as they are or
    in a shape. -/
structure Reading where
  cursor : Cursor
  type : EntityType
  rows : Option (Expr × Option Shape)

namespace Reading

/-- How the entries of a feed become items. -/
def convert (reading : Reading) (resolver : Resolver) : Conversion FeedItem :=
  match reading.rows with
  | none => (Conversion.entity resolver reading.type).thenRun fun tracked => pure (.entity tracked)
  | some (selector, none) =>
    (Conversion.value resolver reading.type selector).thenRun fun value => pure (.value value)
  | some (selector, some shape) =>
    (Conversion.shaped resolver reading.type selector shape).thenRun fun value =>
      pure (.value value)

/-- Whatever is made of an entry, it is materialized first, and that is what is noted. -/
theorem convert_snd (reading : Reading) (resolver : Resolver) (entry : Entry)
    (versions : VersionStore) :
    (reading.convert resolver entry versions).2 =
      versions.noting (entryNote? resolver reading.type entry) := by
  rw [← Conversion.entity_snd]
  unfold convert
  rcases reading.rows with _ | ⟨selector, _ | shape⟩
  · rfl
  · rfl
  · rfl

/-- The item does not depend on the versions. -/
theorem convert_fst (reading : Reading) (resolver : Resolver) (entry : Entry)
    (versions versions' : VersionStore) :
    (reading.convert resolver entry versions).1 = (reading.convert resolver entry versions').1 := by
  have hentity : (Conversion.entity resolver reading.type entry versions).1 =
      (Conversion.entity resolver reading.type entry versions').1 := by
    rw [Conversion.entity_fst, Conversion.entity_fst]
  unfold convert
  rcases reading.rows with _ | ⟨selector, _ | shape⟩
  · exact congrArg (· >>= _) hentity
  · exact congrArg (fun run => (run >>= _) >>= _) hentity
  · exact congrArg (fun run => ((run >>= _) >>= _) >>= _) hentity

/-- One step of a reading. -/
def step {σ : Type} [Peer σ] (reading : Reading) (resolver : Resolver) (link : Link σ) :
    Cursor.Progress FeedItem × Cursor × Link σ :=
  reading.cursor.step (reading.convert resolver) link

/-- What the next step of the reading notes: the version of the entry at the front. -/
def note? (reading : Reading) (resolver : Resolver) : Option Note :=
  if reading.cursor.ended then none
  else reading.cursor.pending.head?.bind (entryNote? resolver reading.type)

end Reading

/-- What one client of a program works with. -/
structure Desk (σ : Type) where
  peer : σ
  /-- The requests sent, in order. -/
  sent : List Request
  instances : Nat → Option Tracked
  readings : Nat → Option Reading

/-- What a program does with a client. -/
inductive Move where
  | create (type : EntityType) (holder : Nat)
  | get (type : EntityType) (id : String) (holder : Nat)
  /-- Begins to read a feed. -/
  | openFeed (address : String) (type : EntityType) (rows : Option (Expr × Option Shape))
      (feed : Nat)
  /-- Takes one step in a feed; if that brings an entity, it is held. -/
  | advance (feed holder : Nat)
  /-- Writes the fields of an entity. -/
  | edit (holder : Nat) (cells : List Cell)
  | perform (operation : Operation) (holder : Nat)

namespace Desk

variable {σ : Type}

/-- A desk at which nothing has happened. -/
def start (peer : σ) : Desk σ :=
  ⟨peer, [], fun _ => none, fun _ => none⟩

/-- The link of a desk with a version store. -/
def link (desk : Desk σ) (versions : VersionStore) : Link σ :=
  ⟨versions, desk.peer, desk.sent, []⟩

/-- The desk after work on its link. -/
def afterLink (desk : Desk σ) (link : Link σ) : Desk σ :=
  { desk with peer := link.peer, sent := link.sent }

/-- The desk with an entity held. -/
def holding (desk : Desk σ) (holder : Nat) (tracked : Tracked) : Desk σ :=
  { desk with
    instances := fun other => if other = holder then some tracked else desk.instances other }

/-- The desk with a feed read so far. -/
def reading (desk : Desk σ) (feed : Nat) (reading : Reading) : Desk σ :=
  { desk with
    readings := fun other => if other = feed then some reading else desk.readings other }

/-- The desk with the fields of an entity written. -/
def editing (desk : Desk σ) (holder : Nat) (cells : List Cell) : Desk σ :=
  { desk with
    instances := fun other =>
      if other = holder then
        (desk.instances other).map fun tracked =>
          { tracked with entity := { tracked.entity with cells := cells } }
      else desk.instances other }

/-- The desk after an entity was made. -/
def afterCreate (desk : Desk σ) (holder : Nat) : Except Failure Tracked → Desk σ
  | .ok tracked => desk.holding holder tracked
  | .error _ => desk

/-- The desk after a read. -/
def afterGet (desk : Desk σ) (holder : Nat) : Except Failure Tracked × Link σ → Desk σ
  | (.ok tracked, link) => (desk.afterLink link).holding holder tracked
  | (.error _, link) => desk.afterLink link

/-- The desk after a step in a feed. -/
def afterStep (desk : Desk σ) (feed holder : Nat) (reading : Reading) :
    Cursor.Progress FeedItem × Cursor × Link σ → Desk σ
  | (.item (.entity tracked), cursor, link) =>
    ((desk.afterLink link).reading feed { reading with cursor := cursor }).holding holder tracked
  | (_, cursor, link) => (desk.afterLink link).reading feed { reading with cursor := cursor }

/-- The desk after an operation on an entity in place. -/
def afterPerform (desk : Desk σ) (holder : Nat) (result : Except Failure Unit × Tracked × Link σ) :
    Desk σ :=
  (desk.afterLink result.2.2).holding holder result.2.1

theorem sent_afterCreate (desk : Desk σ) (holder : Nat) (outcome : Except Failure Tracked) :
    (desk.afterCreate holder outcome).sent = desk.sent := by
  cases outcome with
  | error failure => rfl
  | ok tracked => rfl

theorem sent_afterGet (desk : Desk σ) (holder : Nat) (result : Except Failure Tracked × Link σ) :
    (desk.afterGet holder result).sent = result.2.sent := by
  obtain ⟨outcome, link⟩ := result
  cases outcome with
  | error failure => rfl
  | ok tracked => rfl

theorem sent_afterStep (desk : Desk σ) (feed holder : Nat) (reading : Reading)
    (result : Cursor.Progress FeedItem × Cursor × Link σ) :
    (desk.afterStep feed holder reading result).sent = result.2.2.sent := by
  obtain ⟨progress, cursor, link⟩ := result
  rcases progress with (tracked | value) | failure | _ | _ <;> rfl

theorem sent_afterPerform (desk : Desk σ) (holder : Nat)
    (result : Except Failure Unit × Tracked × Link σ) :
    (desk.afterPerform holder result).sent = result.2.2.sent := rfl

/-- The versions are not on the desk. -/
theorem afterGet_with (desk : Desk σ) (holder : Nat) (outcome : Except Failure Tracked)
    (link : Link σ) (versions : VersionStore) :
    desk.afterGet holder (outcome, { link with versions := versions }) =
      desk.afterGet holder (outcome, link) := by
  cases outcome with
  | error failure => rfl
  | ok tracked => rfl

theorem afterStep_with (desk : Desk σ) (feed holder : Nat) (reading : Reading)
    (progress : Cursor.Progress FeedItem) (cursor : Cursor) (link : Link σ)
    (versions : VersionStore) :
    desk.afterStep feed holder reading (progress, cursor, { link with versions := versions }) =
      desk.afterStep feed holder reading (progress, cursor, link) := by
  rcases progress with (tracked | value) | failure | _ | _ <;> rfl

theorem afterPerform_with (desk : Desk σ) (holder : Nat) (tracked : Tracked)
    (outcome : Except Failure Tracked) (link : Link σ) (versions : VersionStore) :
    desk.afterPerform holder
        (InPlace.written tracked (outcome, { link with versions := versions })) =
      desk.afterPerform holder (InPlace.written tracked (outcome, link)) := by
  cases outcome with
  | error failure => rfl
  | ok after => rfl

section moves
variable [Peer σ] (client : Client)

/-- Makes a move, run with the operations of the client. -/
def act (versions : VersionStore) (desk : Desk σ) : Move → VersionStore × Desk σ
  | .create type holder => (versions, desk.afterCreate holder (client.create type))
  | .get type id holder =>
    let result := (client.get type id).runOn (desk.link versions)
    (result.2.versions, desk.afterGet holder result)
  | .openFeed address type rows feed =>
    (versions, desk.reading feed ⟨.start address, type, rows⟩)
  | .advance feed holder =>
    match desk.readings feed with
    | none => (versions, desk)
    | some reading =>
      let result := reading.step client.resolver (desk.link versions)
      (result.2.2.versions, desk.afterStep feed holder reading result)
  | .edit holder cells => (versions, desk.editing holder cells)
  | .perform operation holder =>
    match desk.instances holder with
    | none => (versions, desk)
    | some tracked =>
      let result := (client.perform operation).runOn tracked (desk.link versions)
      (result.2.2.versions, desk.afterPerform holder result)

/-- The requests that a move sends. -/
def requests (versions : VersionStore) (desk : Desk σ) (move : Move) : List Request :=
  (act client versions desk move).2.sent.drop desk.sent.length

end moves

end Desk

/-! ### What a move notes -/

/-- The version that an answer gives: that of its entry, or else that in its header. -/
def Response.version? (response : Response) : Option String :=
  (Client.answeredVersion response).or response.etag

/-- What is to be noted when a request led to an entity: its version is dropped if it was deleted,
    and otherwise recorded if the answer gives one. -/
def Request.note? (request : Request) (answer : Except Failure Response) (after : Tracked) :
    Option Note :=
  match request.method, answer with
  | .delete, _ => after.identity?.map .dropped
  | _, .ok response => Note.ofVersion? after.identity? response.version?
  | _, .error _ => none

/-- What is to be noted after an operation on one resource: nothing if it failed or sent nothing. -/
def Link.note? {σ : Type} [Peer σ] (link : Link σ) (outcome : Except Failure Tracked)
    (left : Link σ) : Option Note :=
  match outcome with
  | .ok after =>
    (link.sentSince left).head?.bind fun request =>
      request.note? (Peer.answer request link.peer).1 after
  | .error _ => none

/-- A note is on the identity of the entity that a request led to, and unless the entity was
    deleted there is an answer that gives its version. -/
theorem Request.eq_some_of_note? {request : Request} {answer : Except Failure Response}
    {after : Tracked} {note : Note} (hnote : request.note? answer after = some note) :
    after.identity? = some note.identity ∧
      (request.method = .delete ∨
        ∃ response, answer = .ok response ∧ response.version?.isSome = true) := by
  have hrecorded : ∀ response : Response,
      Note.ofVersion? after.identity? response.version? = some note →
      after.identity? = some note.identity ∧ response.version?.isSome = true := by
    intro response hnote
    unfold Note.ofVersion? at hnote
    split at hnote
    · rename_i identity version hidentity hversion
      cases hnote
      exact ⟨hidentity, by rw [hversion]; rfl⟩
    · cases hnote
  unfold note? at hnote
  split at hnote
  · rename_i hdelete
    obtain ⟨identity, hidentity, rfl⟩ := Option.map_eq_some_iff.mp hnote
    exact ⟨hidentity, .inl hdelete⟩
  · rename_i response _
    obtain ⟨hidentity, hversion⟩ := hrecorded response hnote
    exact ⟨hidentity, .inr ⟨response, rfl, hversion⟩⟩
  · cases hnote

/-- What a task concludes is what is to be noted after its request. -/
def Task.Reports (task : Task) : Prop :=
  ∀ versions answer after note, task.conclude answer = .done after note →
    note = (task.request versions).note? answer after

theorem Plan.note?_runOn {σ : Type} [Peer σ] {plan : Plan}
    (hreports : ∀ task, plan = .send task → task.Reports) (link : Link σ) :
    link.note? (plan.runOn link).1 (plan.runOn link).2 = (plan.conclusion link).note? := by
  unfold Link.note?
  rw [outcome_runOn, sentSince_runOn]
  cases plan with
  | ruledOut failure => rfl
  | nothing tracked => rfl
  | send task =>
    cases hconclusion : (Plan.send task).conclusion link with
    | failed failure => rfl
    | done after note => exact (hreports task rfl link.versions _ after note hconclusion).symm

namespace Client

variable {client : Client} {tracked : Tracked}

/-- An accepted change is answered, and its conclusion is drawn from the answer. -/
theorem eq_done_of_concludeChange {accepted : Response → Conclusion}
    {answer : Except Failure Response} {after : Tracked} {note : Option Note}
    (hdone : concludeChange accepted answer = .done after note) :
    ∃ response, answer = .ok response ∧ accepted response = .done after note := by
  unfold concludeChange Conclusion.ofExcept changeOutcome at hdone
  cases answer with
  | error failure => cases hdone
  | ok response =>
    by_cases hsuccess : response.isSuccess = true
    · simp only [if_pos hsuccess] at hdone
      exact ⟨response, rfl, hdone⟩
    · simp only [if_neg hsuccess] at hdone
      cases hdone

theorem reports_insertTask (tracked : Tracked) (url : String) :
    (insertTask tracked url).Reports := by
  intro versions answer after note hdone
  obtain ⟨response, rfl, haccepted⟩ := eq_done_of_concludeChange hdone
  cases hcreated : Entry.decode response.body with
  | error failure =>
    rw [hcreated] at haccepted
    cases haccepted
  | ok created =>
    rw [hcreated, Conclusion.ofExcept] at haccepted
    cases hkey : created.key with
    | none =>
      rw [hkey] at haccepted
      cases haccepted
    | some key =>
      rw [hkey] at haccepted
      cases haccepted
      have hversion : response.version? = created.version.or response.etag := by
        unfold Response.version? answeredVersion
        rw [hcreated]
      rw [← hversion]
      rfl

theorem reports_updateTask {identity : Identity} (hknown : tracked.identity? = some identity)
    (url : String) : (updateTask tracked identity url).Reports := by
  intro versions answer after note hdone
  obtain ⟨response, rfl, haccepted⟩ := eq_done_of_concludeChange hdone
  cases haccepted
  rw [← hknown]
  rfl

theorem reports_deleteTask {identity : Identity} (hknown : tracked.identity? = some identity)
    (url : String) : (deleteTask tracked identity url).Reports := by
  intro versions answer after note hdone
  obtain ⟨response, rfl, haccepted⟩ := eq_done_of_concludeChange hdone
  cases haccepted
  have hafter : tracked.asDeleted.identity? = some identity := hknown
  show _ = tracked.asDeleted.identity?.map Note.dropped
  rw [hafter]
  rfl

theorem reports_of_plan {operation : Operation} {task : Task}
    (hplan : client.plan operation tracked = .send task) : task.Reports := by
  cases sends_of_plan hplan with
  | insert hoperation hnew haddress => exact reports_insertTask tracked _
  | update hoperation hpersisted hchanged hknown haddress => exact reports_updateTask hknown _
  | delete hknown haddress => exact reports_deleteTask hknown _

theorem reports_of_getPlan {type : EntityType} {id : String} {task : Task}
    (hplan : client.getPlan type id = .send task) : task.Reports := by
  obtain ⟨url, haddress, hplan⟩ := Plan.exists_of_ofExcept hplan (by simp)
  cases hplan
  intro versions answer after note hdone
  cases answer with
  | error failure => cases hdone
  | ok response =>
    simp only [getTask, Conclusion.ofExcept, Response.accepted] at hdone
    by_cases hsuccess : response.isSuccess = true
    · simp only [if_pos hsuccess] at hdone
      cases hentry : Entry.decode response.body with
      | error failure =>
        rw [hentry] at hdone
        cases hdone
      | ok entry =>
        simp only [hentry, concludeEntry] at hdone
        have hversion : response.version? = entry.version.or response.etag := by
          unfold Response.version? answeredVersion
          rw [hentry]
        cases hmaterialize : materialize client.resolver type
            { entry with version := entry.version.or response.etag } with
        | error failure =>
          rw [hmaterialize] at hdone
          cases hdone
        | ok received =>
          rw [hmaterialize] at hdone
          cases hdone
          rw [← hversion]
          rfl
    · simp only [if_neg hsuccess] at hdone
      cases hdone

end Client

/-- An operation in place notes what the operation with a result does. -/
theorem Link.note?_written {σ : Type} [Peer σ] (link : Link σ) (tracked : Tracked)
    (result : Except Failure Tracked × Link σ) :
    link.note?
        ((InPlace.written tracked result).1.map fun _ => (InPlace.written tracked result).2.1)
      (InPlace.written tracked result).2.2 = link.note? result.1 result.2 := by
  obtain ⟨outcome, left⟩ := result
  cases outcome with
  | error failure => rfl
  | ok after => rfl

/-! ### What a step in a feed takes from the store -/

namespace Reading

variable {σ : Type} [Peer σ]

/-- What the next step of the reading asks for: the next page, if no entry is left. -/
def request? (reading : Reading) : Option Request :=
  if reading.cursor.ended then none
  else if reading.cursor.pending.isEmpty then reading.cursor.next.map Request.read
  else none

/-- A step does the same whatever the versions are, and takes its note. -/
theorem step_with (reading : Reading) (resolver : Resolver) (link : Link σ)
    (versions : VersionStore) :
    reading.step resolver { link with versions := versions } =
      ((reading.step resolver link).1, (reading.step resolver link).2.1,
        { (reading.step resolver link).2.2 with
          versions := versions.noting (reading.note? resolver) }) := by
  obtain ⟨⟨pending, next, ended⟩, type, rows⟩ := reading
  cases ended with
  | true => rfl
  | false =>
    cases pending with
    | cons entry rest =>
      -- an entry is converted; only this takes a note
      simp only [step, Cursor.step_entry, Link.converting, convert_snd,
        convert_fst _ resolver entry versions link.versions]
      cases (convert ⟨⟨entry :: rest, next, false⟩, type, rows⟩ resolver entry
          link.versions).1.outcome with
      | ok item => rfl
      | error failure => rfl
    | nil =>
      cases next with
      | none => rfl
      | some url =>
        simp only [step, Cursor.step_fetch]
        cases answeredPage url (Peer.answer (Request.read url) link.peer).1 with
        | ok page => rfl
        | error failure => rfl

/-- A step sends what it asks for. -/
theorem sent_step (reading : Reading) (resolver : Resolver) (link : Link σ) :
    (reading.step resolver link).2.2.sent = link.sent ++ reading.request?.toList := by
  obtain ⟨⟨pending, next, ended⟩, type, rows⟩ := reading
  cases ended with
  | true => exact (List.append_nil _).symm
  | false =>
    cases pending with
    | cons entry rest =>
      simp only [step, Cursor.step_entry]
      cases (convert ⟨⟨entry :: rest, next, false⟩, type, rows⟩ resolver entry
          link.versions).1.outcome with
      | ok item => exact (List.append_nil _).symm
      | error failure => exact (List.append_nil _).symm
    | nil =>
      cases next with
      | none => exact (List.append_nil _).symm
      | some url =>
        simp only [step, Cursor.step_fetch]
        cases answeredPage url (Peer.answer (Request.read url) link.peer).1 with
        | ok page => rfl
        | error failure => rfl

/-- Reading a feed only sends requests to read. -/
theorem eq_read_of_request? {reading : Reading} {request : Request}
    (hsent : reading.request? = some request) : ∃ url, request = Request.read url := by
  unfold request? at hsent
  split at hsent
  · cases hsent
  · split at hsent
    · obtain ⟨url, -, rfl⟩ := Option.map_eq_some_iff.mp hsent
      exact ⟨url, rfl⟩
    · cases hsent

theorem method_of_request? {reading : Reading} {request : Request}
    (hsent : reading.request? = some request) : request.method = .get := by
  obtain ⟨url, rfl⟩ := eq_read_of_request? hsent
  rfl

end Reading

/-! ### What a plan takes from the store -/

/-- A request without the version that it sends. -/
def Request.unguarded (request : Request) : Request :=
  { request with ifMatch := none }

namespace Plan

/-- Two stores with the same version under the guard give the same request. -/
theorem request?_congr {plan : Plan} {versions versions' : VersionStore}
    (hguard : ∀ identity, plan.guard? = some identity →
      versions'.get? identity = versions.get? identity) :
    plan.request? versions' = plan.request? versions := by
  cases plan with
  | ruledOut failure => rfl
  | nothing tracked => rfl
  | send task =>
    have htoken : (task.guard.map fun identity => (versions'.get? identity).getD "") =
        task.guard.map fun identity => (versions.get? identity).getD "" := by
      cases htask : task.guard with
      | none => rfl
      | some identity =>
        have hsame := hguard identity htask
        simp only [Option.map_some, hsame]
    unfold request? Task.request
    simp only [htoken]

/-- Any two stores give the same request but for the version that it sends. -/
theorem request?_unguarded (plan : Plan) (versions versions' : VersionStore) :
    (plan.request? versions').map Request.unguarded =
      (plan.request? versions).map Request.unguarded := by
  cases plan with
  | ruledOut failure => rfl
  | nothing tracked => rfl
  | send task => rfl

theorem conclusion_congr {σ : Type} [Peer σ] {plan : Plan} (link : Link σ)
    {versions : VersionStore}
    (hguard : ∀ identity, plan.guard? = some identity →
      versions.get? identity = link.versions.get? identity) :
    plan.conclusion { link with versions := versions } = plan.conclusion link := by
  cases plan with
  | ruledOut failure => rfl
  | nothing tracked => rfl
  | send task =>
    have hrequest : task.request versions = task.request link.versions :=
      Option.some.inj (request?_congr hguard)
    unfold conclusion
    simp only [hrequest]

/-- And then the plan comes to the same, and takes the same note. -/
theorem runOn_with {σ : Type} [Peer σ] {plan : Plan} (link : Link σ) {versions : VersionStore}
    (hguard : ∀ identity, plan.guard? = some identity →
      versions.get? identity = link.versions.get? identity) :
    plan.runOn { link with versions := versions } =
      ((plan.runOn link).1, { (plan.runOn link).2 with
        versions := versions.noting (plan.conclusion link).note? }) := by
  cases plan with
  | ruledOut failure => rfl
  | nothing tracked => rfl
  | send task =>
    have hrequest : task.request versions = task.request link.versions :=
      Option.some.inj (request?_congr hguard)
    unfold runOn conclusion request?
    simp only [hrequest]
    rfl

end Plan

/-- Reading a resource sends a request to read. -/
theorem Client.method_of_getPlan {client : Client} {type : EntityType} {id : String}
    {versions : VersionStore} {request : Request}
    (hsent : (client.getPlan type id).request? versions = some request) :
    request.method = .get := by
  obtain ⟨task, hplan, rfl⟩ := Plan.eq_send_of_request? hsent
  obtain ⟨url, -, hplan⟩ := Plan.exists_of_ofExcept hplan (by simp)
  cases hplan
  rfl

/-- Reading a resource sends no version. -/
theorem Client.guard?_getPlan (client : Client) (type : EntityType) (id : String)
    (versions versions' : VersionStore) (identity : Identity)
    (hguard : (client.getPlan type id).guard? = some identity) :
    versions'.get? identity = versions.get? identity := by
  unfold getPlan Plan.ofExcept at hguard
  cases haddress : client.site.singleUrl type.kind id with
  | error failure =>
    rw [haddress] at hguard
    cases hguard
  | ok url =>
    rw [haddress] at hguard
    cases hguard

/-! ### The laws of a move -/

namespace Desk

variable {σ : Type} [Peer σ] (client : Client)

/-- What a move notes. -/
def note? (versions : VersionStore) (desk : Desk σ) : Move → Option Note
  | .get type id _ =>
    let (outcome, left) := (client.get type id).runOn (desk.link versions)
    (desk.link versions).note? outcome left
  | .advance feed _ =>
    (desk.readings feed).bind fun reading => reading.note? client.resolver
  | .perform operation holder =>
    (desk.instances holder).bind fun tracked =>
      let (outcome, after, left) := (client.perform operation).runOn tracked (desk.link versions)
      (desk.link versions).note? (outcome.map fun _ => after) left
  | .create .. | .openFeed .. | .edit .. => none

/-- The identity whose version a move sends. -/
def guard? (desk : Desk σ) : Move → Option Identity
  | .perform operation holder =>
    (desk.instances holder).bind fun tracked => (client.plan operation tracked).guard?
  | .create .. | .get .. | .openFeed .. | .advance .. | .edit .. => none

/-- The request that a move sends. -/
def request? (versions : VersionStore) (desk : Desk σ) : Move → Option Request
  | .get type id _ => (client.getPlan type id).request? versions
  | .advance feed _ => (desk.readings feed).bind Reading.request?
  | .perform operation holder =>
    (desk.instances holder).bind fun tracked => (client.plan operation tracked).request? versions
  | .create .. | .openFeed .. | .edit .. => none

variable {client} {versions versions' : VersionStore} {desk : Desk σ}

theorem note?_get (type : EntityType) (id : String) (holder : Nat) :
    desk.note? client versions (.get type id holder) =
      ((client.getPlan type id).conclusion (desk.link versions)).note? := by
  rw [← Plan.note?_runOn fun _ => Client.reports_of_getPlan, ← Client.runOn_get]
  rfl

theorem note?_perform {operation : Operation} {holder : Nat} {tracked : Tracked}
    (hheld : desk.instances holder = some tracked) :
    desk.note? client versions (.perform operation holder) =
      ((client.plan operation tracked).conclusion (desk.link versions)).note? := by
  rw [← Plan.note?_runOn fun _ => Client.reports_of_plan, ← Link.note?_written _ tracked,
    ← Client.runOn_perform]
  show (desk.instances holder).bind _ = _
  rw [hheld]
  rfl

/-- A note of an operation is on the identity that it led to, and has its request for a cause. -/
theorem eq_some_of_note?_perform {operation : Operation} {holder : Nat} {tracked : Tracked}
    {note : Note} (hheld : desk.instances holder = some tracked)
    (hnote : desk.note? client versions (.perform operation holder) = some note) :
    let result := (client.perform operation).runOn tracked (desk.link versions)
    result.1 = .ok () ∧ result.2.1.identity? = some note.identity ∧
      ∃ request ∈ desk.requests client versions (.perform operation holder),
        request.method = .delete ∨
        ∃ response, (Peer.answer request desk.peer).1 = .ok response ∧
          response.version?.isSome = true := by
  intro result
  have hsent : desk.requests client versions (.perform operation holder) =
      (desk.link versions).sentSince result.2.2 := by
    unfold requests act
    simp only [hheld]
    rfl
  have hlink : (desk.link versions).note? (result.1.map fun _ => result.2.1) result.2.2 =
      some note := by
    rw [← hnote]
    show _ = (desk.instances holder).bind _
    rw [hheld]
    rfl
  rw [hsent]
  cases houtcome : result.1 with
  | error failure =>
    rw [houtcome] at hlink
    cases hlink
  | ok done =>
    rw [houtcome] at hlink
    obtain ⟨request, hrequest, hnote⟩ := Option.bind_eq_some_iff.mp hlink
    obtain ⟨hidentity, hcause⟩ := Request.eq_some_of_note? hnote
    exact ⟨rfl, hidentity, request, List.mem_of_mem_head? hrequest, hcause⟩

theorem act_perform {operation : Operation} {holder : Nat} {tracked : Tracked}
    (hheld : desk.instances holder = some tracked) :
    desk.act client versions (.perform operation holder) =
      (((client.plan operation tracked).runOn (desk.link versions)).2.versions,
        desk.afterPerform holder
          (InPlace.written tracked
            ((client.plan operation tracked).runOn (desk.link versions)))) := by
  rw [← InPlace.link_written tracked, ← Client.runOn_perform]
  unfold act
  simp only [hheld]

/-- **A move takes its note**, and does nothing else to the store. -/
theorem versions_act (move : Move) :
    (desk.act client versions move).1 = versions.noting (desk.note? client versions move) := by
  cases move with
  | create type holder => rfl
  | get type id holder =>
    have hversions := (client.getPlan type id).versions_runOn (desk.link versions)
    rw [← Client.runOn_get] at hversions
    rw [note?_get]
    exact hversions
  | openFeed address type rows feed => rfl
  | advance feed holder =>
    cases hreading : desk.readings feed with
    | none =>
      simp only [act, note?, hreading]
      rfl
    | some reading =>
      have hstep := congrArg (·.2.2.versions)
        (reading.step_with client.resolver (desk.link versions) versions)
      simp only [act, note?, hreading]
      exact hstep
  | edit holder cells => rfl
  | perform operation holder =>
    cases hheld : desk.instances holder with
    | none =>
      simp only [act, note?, hheld]
      rfl
    | some tracked =>
      rw [note?_perform hheld, act_perform hheld]
      exact (client.plan operation tracked).versions_runOn (desk.link versions)

/-- A move sends its request. -/
theorem sent_act (move : Move) :
    (desk.act client versions move).2.sent =
      desk.sent ++ (desk.request? client versions move).toList := by
  have hnone : desk.sent = desk.sent ++ [] := (List.append_nil _).symm
  cases move with
  | create type holder =>
    show (desk.afterCreate holder (client.create type)).sent = _
    rw [sent_afterCreate]
    exact hnone
  | get type id holder =>
    show (desk.afterGet holder ((client.get type id).runOn (desk.link versions))).sent = _
    rw [sent_afterGet, Client.runOn_get]
    exact (client.getPlan type id).sent_runOn (desk.link versions)
  | openFeed address type rows feed => exact hnone
  | advance feed holder =>
    cases hreading : desk.readings feed with
    | none =>
      simp only [act, request?, hreading]
      exact hnone
    | some reading =>
      simp only [act, request?, hreading]
      rw [sent_afterStep]
      exact reading.sent_step client.resolver (desk.link versions)
  | edit holder cells => exact hnone
  | perform operation holder =>
    cases hheld : desk.instances holder with
    | none =>
      simp only [act, request?, hheld]
      exact hnone
    | some tracked =>
      simp only [request?, hheld]
      rw [act_perform hheld, sent_afterPerform, InPlace.link_written]
      exact (client.plan operation tracked).sent_runOn (desk.link versions)

theorem requests_eq (move : Move) :
    desk.requests client versions move = (desk.request? client versions move).toList := by
  rw [requests, sent_act, List.drop_left]

omit [Peer σ] in
/-- Whatever the versions are, the request is the same but for the version that it sends. -/
theorem request?_unguarded (move : Move) :
    (desk.request? client versions' move).map Request.unguarded =
      (desk.request? client versions move).map Request.unguarded := by
  cases move with
  | create | openFeed | advance | edit => rfl
  | get type id holder => exact (client.getPlan type id).request?_unguarded versions versions'
  | perform operation holder =>
    cases hheld : desk.instances holder with
    | none => simp only [request?, hheld, Option.bind_none]
    | some tracked =>
      simp only [request?, hheld]
      exact (client.plan operation tracked).request?_unguarded versions versions'

/-- **A move uses the store for the version that it sends along**, and for nothing else. -/
theorem act_congr {move : Move}
    (hguard : ∀ identity, desk.guard? client move = some identity →
      versions'.get? identity = versions.get? identity) :
    (desk.act client versions' move).2 = (desk.act client versions move).2 ∧
      desk.note? client versions' move = desk.note? client versions move := by
  cases move with
  | create type holder => exact ⟨rfl, rfl⟩
  | get type id holder =>
    -- a read sends no version, so that any two stores will do
    have hguard := client.guard?_getPlan type id versions versions'
    constructor
    · show desk.afterGet holder ((client.get type id).runOn (desk.link versions')) =
        desk.afterGet holder ((client.get type id).runOn (desk.link versions))
      rw [Client.runOn_get, Client.runOn_get]
      have hresult : (client.getPlan type id).runOn (desk.link versions') = _ :=
        Plan.runOn_with (desk.link versions) hguard
      rw [hresult, afterGet_with]
    · rw [note?_get, note?_get]
      exact congrArg Conclusion.note? (Plan.conclusion_congr (desk.link versions) hguard)
  | openFeed address type rows feed => exact ⟨rfl, rfl⟩
  | advance feed holder =>
    refine ⟨?_, rfl⟩
    cases hreading : desk.readings feed with
    | none => simp only [act, hreading]
    | some reading =>
      have hresult : reading.step client.resolver (desk.link versions') = _ :=
        reading.step_with client.resolver (desk.link versions) versions'
      simp only [act, hreading]
      rw [hresult, afterStep_with]
  | edit holder cells => exact ⟨rfl, rfl⟩
  | perform operation holder =>
    cases hheld : desk.instances holder with
    | none => simp only [act, note?, hheld, Option.bind_none, and_self]
    | some tracked =>
      have hplan : ∀ identity, (client.plan operation tracked).guard? = some identity →
          versions'.get? identity = versions.get? identity := by
        intro identity hidentity
        apply hguard identity
        show (desk.instances holder).bind _ = _
        rw [hheld]
        exact hidentity
      constructor
      · have hresult : (client.plan operation tracked).runOn (desk.link versions') = _ :=
          Plan.runOn_with (desk.link versions) hplan
        rw [act_perform hheld, act_perform hheld, hresult, afterPerform_with]
      · rw [note?_perform hheld, note?_perform hheld]
        exact congrArg Conclusion.note? (Plan.conclusion_congr (desk.link versions) hplan)

end Desk

/-! ### Seats at work -/

/-- The place of the store that a move works on. -/
def Move.place (seat : Seat) : Move → Nat
  | .perform .. => seat.store
  | .create .. | .get .. | .openFeed .. | .advance .. | .edit .. => seat.readerStore

/-- The stores with another one at a place. -/
def withStore (stores : Nat → VersionStore) (place : Nat) (versions : VersionStore) :
    Nat → VersionStore :=
  fun other => if other = place then versions else stores other

namespace Desk

variable {σ : Type} [Peer σ]

/-- Makes a move with the client of a seat, on the store of the seat. -/
def actAt (seat : Seat) (stores : Nat → VersionStore) (desk : Desk σ) (move : Move) :
    (Nat → VersionStore) × Desk σ :=
  let result := desk.act seat.client (stores (move.place seat)) move
  (withStore stores (move.place seat) result.1, result.2)

end Desk

end ResourceFeed
