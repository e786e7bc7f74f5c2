import ResourceFeed.Proofs.Client.Plans
import ResourceFeed.Proofs.Client.SharedVersions

/-! # From creation to deletion

    A tracked entity begins as a new one or as the server has it, and then its
    fields are written and clients perform operations on it, in *turns*.  The
    answers to the requests may be anything at all, so that every operation
    may come over a link of its own.

    All that a turn can do to the key, the lifecycle and the snapshot is listed
    in `Becomes`.  What is known of an entity at any time, `Sound`, and where
    its lifecycle and its key can go from there follow from that list by cases,
    and then for any number of turns by induction.
-/

namespace ResourceFeed

/-- Where a turn can take the lifecycle. -/
inductive Lifecycle.Leads : Lifecycle → Lifecycle → Prop where
  | stay {lifecycle} : Leads lifecycle lifecycle
  | accepted : Leads .new .persisted
  | deleted : Leads .persisted .deleted

namespace Tracked

/-- One thing that is done to an entity. -/
inductive Turn (σ : Type) where
  /-- Its fields are written. -/
  | edit (cells : List Cell)
  /-- A client performs an operation on it over a link. -/
  | perform (client : Client) (operation : Operation) (link : Link σ)

/-- How an entity begins. -/
inductive Begun : Tracked → Prop where
  | created {client : Client} {type : EntityType} {tracked : Tracked}
      (hcreated : client.create type = .ok tracked) : Begun tracked
  | materialized {resolver : Resolver} {type : EntityType} {entry : Entry} {tracked : Tracked}
      (hmaterialized : materialize resolver type entry = .ok tracked) : Begun tracked

/-- The methods of the requests that may be sent for an entity. -/
inductive MaySend (tracked : Tracked) : Method → Prop where
  | post (hnew : tracked.lifecycle = .new) : MaySend tracked .post
  | put (hpersisted : tracked.lifecycle = .persisted) (hkey : tracked.key.isSome = true)
      (hchanged : ∃ cell ∈ tracked.entity.cells,
        cell.field.isWritable = true ∧ isChanged tracked.snapshot cell = true) :
      MaySend tracked .put
  | delete (hpersisted : tracked.lifecycle = .persisted) (hkey : tracked.key.isSome = true) :
      MaySend tracked .delete

/-! ### Where an entity stands -/

section standing
variable {tracked : Tracked} {client : Client} {operation : Operation} {task : Task}

theorem state_of_deleted (hdeleted : tracked.lifecycle = .deleted) : tracked.state = .deleted := by
  unfold state
  rw [hdeleted]

theorem isSome_key_of_identity {identity : Identity} (hknown : tracked.identity? = some identity) :
    tracked.key.isSome = true := by
  have hsome : tracked.identity?.isSome = true := by
    rw [hknown]
    rfl
  rwa [identity?, Option.isSome_map] at hsome

/-- If there is something to send, a writable field has changed. -/
theorem exists_changed (hchanges : tracked.changes.isEmpty = false) :
    ∃ cell ∈ tracked.entity.cells,
      cell.field.isWritable = true ∧ isChanged tracked.snapshot cell = true := by
  unfold changes at hchanges
  cases hfilter : tracked.entity.cells.filter
      fun cell => cell.field.isWritable && isChanged tracked.snapshot cell with
  | nil =>
    rw [hfilter] at hchanges
    cases hchanges
  | cons cell rest =>
    have hcell : cell ∈ tracked.entity.cells.filter
        fun cell => cell.field.isWritable && isChanged tracked.snapshot cell := by
      rw [hfilter]
      exact List.mem_cons_self
    obtain ⟨hmem, hchosen⟩ := List.mem_filter.mp hcell
    exact ⟨cell, hmem, Bool.and_eq_true_iff.mp hchosen⟩

/-- A deletion is sent for a persisted entity only. -/
theorem persisted_of_deletePlan (hplan : client.deletePlan tracked = .send task) :
    tracked.lifecycle = .persisted := by
  unfold Client.deletePlan at hplan
  by_cases hbarred : tracked.state = .new ∨ tracked.state = .deleted
  · rw [if_pos hbarred] at hplan
    cases hplan
  · exact Client.lifecycle_of_state hbarred

/-- An accepted deletion succeeds. -/
theorem conclude_deleteTask {identity : Identity} {url : String}
    {answer : Except Failure Response} {response : Response}
    (hanswer : Client.changeOutcome answer = .ok response) :
    (Client.deleteTask tracked identity url).conclude answer =
      .done tracked.asDeleted (some (.dropped identity)) := by
  unfold Client.deleteTask Client.concludeChange
  simp only [hanswer, Conclusion.ofExcept]

/-- Every operation on a deleted entity is ruled out. -/
theorem plan_of_deleted (client : Client) (operation : Operation)
    (hstate : tracked.state = .deleted) :
    client.plan operation tracked = .ruledOut (.invalidState operation .deleted false) := by
  cases operation with
  | save => simp only [Client.plan, Client.savePlan, hstate]
  | insert => simp [Client.plan, Client.insertPlan, hstate]
  | update => simp [Client.plan, Client.updatePlan, hstate]
  | delete => simp [Client.plan, Client.deletePlan, hstate]

/-- A task that is sent for an entity is one that may be sent. -/
theorem maySend_of_plan (hplan : client.plan operation tracked = .send task) :
    tracked.MaySend task.method := by
  cases Client.sends_of_plan hplan with
  | insert _ hnew haddress => exact .post (Client.lifecycle_of_new hnew)
  | update _ hpersisted hchanged hknown haddress =>
    exact .put hpersisted (isSome_key_of_identity hknown) (exists_changed hchanged)
  | delete hknown haddress =>
    exact .delete (persisted_of_deletePlan hplan) (isSome_key_of_identity hknown)

end standing

section turns
variable {σ : Type} [Peer σ]

/-- The entity after a turn. -/
def turn (tracked : Tracked) : Turn σ → Tracked
  | .edit cells => { tracked with entity := { tracked.entity with cells := cells } }
  | .perform client operation link => ((client.perform operation).runOn tracked link).2.1

/-- The entity after turns in order. -/
def turns (tracked : Tracked) (taken : List (Turn σ)) : Tracked :=
  taken.foldl turn tracked

/-! ### What a turn can do -/

/-- What a turn can make of an entity. -/
inductive Becomes (tracked : Tracked) : Tracked → Prop where
  | edited (cells : List Cell) :
      Becomes tracked { tracked with entity := { tracked.entity with cells := cells } }
  | unchanged : Becomes tracked tracked
  | created (key : String) (hnew : tracked.lifecycle = .new) :
      Becomes tracked (tracked.persist (some key))
  | updated (hpersisted : tracked.lifecycle = .persisted) : Becomes tracked (tracked.persist none)
  | deleted (hpersisted : tracked.lifecycle = .persisted) (hkey : tracked.key.isSome = true) :
      Becomes tracked tracked.asDeleted

/-- What comes of a task that is sent. -/
theorem becomes_of_send {tracked : Tracked} {client : Client} {operation : Operation} {task : Task}
    (link : Link σ) (hplan : client.plan operation tracked = .send task) :
    Becomes tracked (InPlace.written tracked ((Plan.send task).runOn link)).2.1 := by
  have hsends := Client.sends_of_plan hplan
  obtain ⟨answer, left, hrun⟩ : ∃ answer left,
      (Plan.send task).runOn link = ((task.conclude answer).outcome, left) := ⟨_, _, rfl⟩
  rw [hrun]
  cases hanswer : Client.changeOutcome answer with
  | error failure =>
    rw [hsends.conclude_of_refused hanswer]
    exact .unchanged
  | ok response =>
    cases hsends with
    | insert _ hnew haddress =>
      rcases Client.conclude_insertTask hanswer with ⟨failure, hconclude⟩ | ⟨key, note, hconclude⟩
      · -- the answer does not name the resource
        rw [hconclude]
        exact .unchanged
      · rw [hconclude]
        exact .created key (Client.lifecycle_of_new hnew)
    | update _ hpersisted hchanged hknown haddress =>
      obtain ⟨note, hconclude⟩ := Client.conclude_updateTask hanswer
      rw [hconclude]
      exact .updated hpersisted
    | delete hknown haddress =>
      rw [conclude_deleteTask hanswer]
      exact .deleted (persisted_of_deletePlan hplan) (isSome_key_of_identity hknown)

/-- A turn does one of the things in `Becomes`. -/
theorem becomes_turn (tracked : Tracked) (taken : Turn σ) :
    Becomes tracked (tracked.turn taken) := by
  cases taken with
  | edit cells => exact .edited cells
  | perform client operation link =>
    unfold turn
    simp only
    rw [client.runOn_perform]
    cases hplan : client.plan operation tracked with
    | ruledOut failure => exact .unchanged
    | nothing after =>
      obtain ⟨rfl, -, -⟩ := Client.unchanged_of_plan hplan
      exact .unchanged
    | send task => exact becomes_of_send link hplan

/-! ### What is known at any time -/

/-- A new entity is as it was created, and a deleted one was known to the server. -/
structure Sound (tracked : Tracked) : Prop where
  ofNew : tracked.lifecycle = .new → tracked.key = none ∧ tracked.snapshot = []
  ofDeleted : tracked.lifecycle = .deleted → tracked.key.isSome = true

omit [Peer σ] in
theorem Begun.sound {tracked : Tracked} (hbegun : tracked.Begun) : tracked.Sound := by
  cases hbegun with
  | @created client type _ hcreated =>
    unfold Client.create at hcreated
    cases hblank : client.resolver.blank type with
    | error failure =>
      rw [hblank] at hcreated
      cases hcreated
    | ok entity =>
      rw [hblank] at hcreated
      cases hcreated
      exact ⟨fun _ => ⟨rfl, rfl⟩, nofun⟩
  | materialized hmaterialized =>
    obtain ⟨_, entity, -, -, rfl⟩ := materialize_eq_ok.mp hmaterialized
    exact ⟨nofun, nofun⟩

namespace Becomes

variable {tracked after : Tracked} (hbecomes : Becomes tracked after)

omit [Peer σ]
include hbecomes

theorem sound (hsound : tracked.Sound) : after.Sound := by
  cases hbecomes with
  | edited cells => exact ⟨hsound.ofNew, hsound.ofDeleted⟩
  | unchanged => exact hsound
  | created key hnew => exact ⟨nofun, nofun⟩
  | updated hpersisted => exact ⟨nofun, nofun⟩
  | deleted hpersisted hkey => exact ⟨nofun, fun _ => hkey⟩

theorem leads : tracked.lifecycle.Leads after.lifecycle := by
  cases hbecomes with
  | edited cells => exact .stay
  | unchanged => exact .stay
  | created key hnew =>
    rw [hnew]
    exact .accepted
  | updated hpersisted =>
    rw [hpersisted]
    exact .stay
  | deleted hpersisted hkey =>
    rw [hpersisted]
    exact .deleted

/-- A key stays, since only a new entity gets one, and has none. -/
theorem key (hsound : tracked.Sound) {key : String} (hkey : tracked.key = some key) :
    after.key = some key := by
  cases hbecomes with
  | edited cells => exact hkey
  | unchanged => exact hkey
  | created given hnew =>
    rw [(hsound.ofNew hnew).1] at hkey
    cases hkey
  | updated hpersisted => exact hkey
  | deleted hpersisted _ => exact hkey

/-- Deletion is final. -/
theorem lifecycle_of_deleted (hdeleted : tracked.lifecycle = .deleted) :
    after.lifecycle = .deleted := by
  have hleads := hbecomes.leads
  rw [hdeleted] at hleads
  generalize after.lifecycle = lifecycle at hleads ⊢
  cases hleads with
  | stay => rfl

end Becomes

/-! ### Along any number of turns -/

variable {tracked : Tracked}

theorem Sound.turns (hsound : tracked.Sound) (taken : List (Turn σ)) :
    (tracked.turns taken).Sound := by
  induction taken generalizing tracked with
  | nil => exact hsound
  | cons first rest ih => exact ih ((becomes_turn tracked first).sound hsound)

theorem Sound.key_turns (hsound : tracked.Sound) {key : String} (hkey : tracked.key = some key)
    (taken : List (Turn σ)) : (tracked.turns taken).key = some key := by
  induction taken generalizing tracked with
  | nil => exact hkey
  | cons first rest ih =>
    have hbecomes := becomes_turn tracked first
    exact ih (hbecomes.sound hsound) (hbecomes.key hsound hkey)

theorem lifecycle_turns_of_deleted (hdeleted : tracked.lifecycle = .deleted)
    (taken : List (Turn σ)) : (tracked.turns taken).lifecycle = .deleted := by
  induction taken generalizing tracked with
  | nil => exact hdeleted
  | cons first rest ih => exact ih ((becomes_turn tracked first).lifecycle_of_deleted hdeleted)

/-- An operation on a deleted entity fails and does nothing. -/
theorem perform_of_deleted (hdeleted : tracked.lifecycle = .deleted) (client : Client)
    (operation : Operation) (link : Link σ) :
    (client.perform operation).runOn tracked link =
      (.error (.invalidState operation .deleted false), tracked, link) := by
  rw [client.runOn_perform, plan_of_deleted client operation (state_of_deleted hdeleted)]
  rfl

/-- An operation sends at most one request, and only one that may be sent. -/
theorem sent_of_perform (tracked : Tracked) (client : Client) (operation : Operation)
    (link : Link σ) :
    ∃ request? : Option Request,
      ((client.perform operation).runOn tracked link).2.2.sent = link.sent ++ request?.toList ∧
      ∀ request ∈ request?, tracked.MaySend request.method := by
  refine ⟨(client.plan operation tracked).request? link.versions, ?_, ?_⟩
  · rw [client.runOn_perform, InPlace.link_written, Plan.sent_runOn]
  · intro request hrequest
    obtain ⟨task, hplan, rfl⟩ := Plan.eq_send_of_request? (Option.mem_def.mp hrequest)
    exact maySend_of_plan hplan

/-- **The life of an entity.**  Whatever was done to an entity since it was created or
    materialized, and whatever its clients were answered:

    * a new entity has no key and no snapshot, and a key stays as it is;
    * no turn takes the lifecycle anywhere but from new to persisted and from there to deleted;
    * a deleted entity has a key, stays deleted, and every operation on it fails without having
      done anything;
    * an operation sends one request at most: a `POST` for a new entity, a `PUT` for a persisted one
      with a key and a changed writable field, or a `DELETE` for a persisted one with a key. -/
theorem life_of_tracked {start : Tracked} (hbegun : start.Begun) (earlier : List (Turn σ)) :
    let tracked := start.turns earlier
    (tracked.lifecycle = .new → tracked.key = none ∧ tracked.snapshot = []) ∧
      (∀ key (later : List (Turn σ)), tracked.key = some key →
        (tracked.turns later).key = some key) ∧
      (∀ next : Turn σ, tracked.lifecycle.Leads (tracked.turn next).lifecycle) ∧
      (tracked.lifecycle = .deleted →
        tracked.key.isSome = true ∧
        (∀ later : List (Turn σ), (tracked.turns later).state = .deleted) ∧
        ∀ (client : Client) operation (link : Link σ),
          (client.perform operation).runOn tracked link =
            (.error (.invalidState operation .deleted false), tracked, link)) ∧
      ∀ (client : Client) operation (link : Link σ), ∃ request? : Option Request,
        ((client.perform operation).runOn tracked link).2.2.sent = link.sent ++ request?.toList ∧
        ∀ request ∈ request?, tracked.MaySend request.method := by
  intro tracked
  have hsound : tracked.Sound := hbegun.sound.turns earlier
  refine ⟨hsound.ofNew, ?_, ?_, ?_, tracked.sent_of_perform⟩
  · intro key later hkey
    exact hsound.key_turns hkey later
  · intro next
    exact (becomes_turn tracked next).leads
  · intro hdeleted
    refine ⟨hsound.ofDeleted hdeleted, ?_, perform_of_deleted hdeleted⟩
    intro later
    exact state_of_deleted (lifecycle_turns_of_deleted hdeleted later)

end turns

/-! ### A contact that is created, named and deleted -/

namespace Obliging

open SharedVersions.Counter (body client contact entry_of_body named)

/-- A server that accepts everything and names every new resource alike. -/
structure Server where

instance : Peer Server where
  answer request server :=
    match request.method with
    | .post => (.ok ⟨201, none, body⟩, server)
    | _ => (.ok ⟨200, none, []⟩, server)

/-- A link to this server. -/
def link : Link Server :=
  ⟨.empty none, ⟨⟩, [], []⟩

/-- A contact that was just created. -/
def fresh : Tracked :=
  Tracked.new contact.fresh

/-- The contact is created, named, updated and deleted. -/
def whole : List (Turn Server) :=
  [.perform client .insert link, .edit (named "Ann"), .perform client .update link,
    .perform client .delete link]

/-- What comes of a task that succeeds. -/
theorem turn_of_send {tracked after : Tracked} {operation : Operation} {task : Task}
    {note : Option Note} (hplan : client.plan operation tracked = .send task)
    (hconclude : task.conclude (Peer.answer (task.request link.versions) link.peer).1 =
      .done after note) : tracked.turn (.perform client operation link) = after := by
  unfold turn
  simp only
  rw [client.runOn_perform, hplan, Plan.runOn, Plan.conclusion, hconclude]
  rfl

theorem turn_insert : fresh.turn (.perform client .insert link) = fresh.persist (some "C1") := by
  obtain ⟨url, hplan⟩ : ∃ url, client.plan .insert fresh =
    .send (Client.insertTask fresh url) := ⟨_, rfl⟩
  have hanswer : Client.changeOutcome (.ok ⟨201, none, body⟩) = .ok ⟨201, none, body⟩ := rfl
  have hconclude : (Client.insertTask fresh url).conclude (.ok ⟨201, none, body⟩) =
      .done (fresh.persist (some "C1")) none :=
    Client.conclude_insertTask_of_entry hanswer entry_of_body rfl
  exact turn_of_send hplan hconclude

theorem lifecycle_whole : (fresh.turns whole).lifecycle = .deleted := by
  unfold turns whole
  rw [List.foldl_cons, turn_insert]
  rfl

/-- It stays deleted, and saving it fails. -/
theorem deleted_contact_stays_deleted :
    fresh.Begun ∧ (fresh.turns whole).lifecycle = .deleted ∧
      (∀ later : List (Turn Server), ((fresh.turns whole).turns later).state = .deleted) ∧
      ((client.perform .save).runOn (fresh.turns whole) link).1 =
        .error (.invalidState .save .deleted false) := by
  have hbegun : fresh.Begun := .created (show client.create contact = .ok fresh from rfl)
  obtain ⟨-, -, -, hdeleted, -⟩ := life_of_tracked hbegun whole
  obtain ⟨-, hstays, hfails⟩ := hdeleted lifecycle_whole
  exact ⟨hbegun, lifecycle_whole, hstays, by rw [hfails]⟩

end Obliging

end Tracked
end ResourceFeed
