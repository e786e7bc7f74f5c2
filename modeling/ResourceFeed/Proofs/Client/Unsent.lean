import ResourceFeed.Client.Recording
import ResourceFeed.Proofs.Client.Desk
import ResourceFeed.Proofs.Resource.Hidden

/-! # Hidden fields never reach the server

    Two programs do the same with a client, except that they write different
    contents to hidden fields: to relationships, and to read only fields that
    share no name with a writable one.  Then nobody can tell them apart by
    what they send, by what comes of it, or by the states of their entities.

    The plans of an operation for two entities that are alike have the same
    request and come to entities that are alike (`plan_alike`).  So two desks
    whose entities are alike stay so with every deed (`Desk.Alike.deed`), and
    all that is seen on the way is the same.
-/

namespace ResourceFeed

/-! ### Plans that are alike -/

/-- The same failure, or the same note and entities that are alike. -/
inductive Conclusion.Alike : Conclusion → Conclusion → Prop where
  | failed (failure : Failure) : Alike (.failed failure) (.failed failure)
  | done {tracked other : Tracked} (halike : tracked.Alike other) (note : Option Note) :
      Alike (.done tracked note) (.done other note)

/-- The same request, and conclusions that are alike. -/
structure Task.Alike (task other : Task) : Prop where
  method : other.method = task.method
  url : other.url = task.url
  guard : other.guard = task.guard
  body : other.body = task.body
  conclude : ∀ answer, (task.conclude answer).Alike (other.conclude answer)

/-- Plans that differ in hidden fields alone. -/
inductive Plan.Alike : Plan → Plan → Prop where
  | ruledOut (failure : Failure) : Alike (.ruledOut failure) (.ruledOut failure)
  | nothing {tracked other : Tracked} (halike : tracked.Alike other) :
      Alike (.nothing tracked) (.nothing other)
  | send {task other : Task} (halike : task.Alike other) : Alike (.send task) (.send other)

theorem Conclusion.Alike.ofExcept {α : Type} (outcome : Except Failure α)
    {next next' : α → Conclusion} (hnext : ∀ value, (next value).Alike (next' value)) :
    (Conclusion.ofExcept outcome next).Alike (Conclusion.ofExcept outcome next') := by
  cases outcome with
  | error failure => exact .failed failure
  | ok value => exact hnext value

theorem Conclusion.Alike.written {σ : Type} {conclusion other : Conclusion}
    (halike : conclusion.Alike other) (link : Link σ) {tracked tracked' : Tracked}
    (hbefore : tracked.Alike tracked') :
    let result := InPlace.written tracked (link.concluding conclusion)
    let result' := InPlace.written tracked' (link.concluding other)
    result'.1 = result.1 ∧ result.2.1.Alike result'.2.1 ∧ result'.2.2 = result.2.2 := by
  cases halike with
  | failed failure => exact ⟨rfl, hbefore, rfl⟩
  | done hafter note => exact ⟨rfl, hafter, rfl⟩

theorem Plan.Alike.ofExcept {α : Type} (outcome : Except Failure α) {next next' : α → Plan}
    (hnext : ∀ value, (next value).Alike (next' value)) :
    (Plan.ofExcept outcome next).Alike (Plan.ofExcept outcome next') := by
  cases outcome with
  | error failure => exact .ruledOut failure
  | ok value => exact hnext value

theorem Task.Alike.request_eq {task other : Task} (halike : task.Alike other)
    (versions : VersionStore) : other.request versions = task.request versions := by
  rw [Task.request, Task.request, halike.method, halike.url, halike.guard, halike.body]

section plans
variable {plan other : Plan} (halike : plan.Alike other)
include halike

theorem Plan.Alike.request?_eq (versions : VersionStore) :
    other.request? versions = plan.request? versions := by
  cases halike with
  | ruledOut failure => rfl
  | nothing halike => rfl
  | send halike => exact congrArg some (halike.request_eq versions)

theorem Plan.Alike.conclusion {σ : Type} [Peer σ] (link : Link σ) :
    (plan.conclusion link).Alike (other.conclusion link) := by
  cases halike with
  | ruledOut failure => exact .failed failure
  | nothing halike => exact .done halike none
  | send halike =>
    rw [Plan.conclusion, Plan.conclusion, halike.request_eq]
    exact halike.conclude _

/-- Operations in place whose plans are alike come to the same, and leave entities that are
    alike. -/
theorem Plan.Alike.written {σ : Type} [Peer σ] (link : Link σ) {tracked tracked' : Tracked}
    (hbefore : tracked.Alike tracked') :
    let result := InPlace.written tracked (plan.runOn link)
    let result' := InPlace.written tracked' (other.runOn link)
    result'.1 = result.1 ∧ result.2.1.Alike result'.2.1 ∧ result'.2.2 = result.2.2 := by
  unfold Plan.runOn
  rw [halike.request?_eq]
  exact (halike.conclusion link).written _ hbefore

end plans

namespace Client

section tasks
variable {tracked other : Tracked} (halike : tracked.Alike other)
include halike

theorem insertTask_alike (url : String) : (insertTask tracked url).Alike (insertTask other url) where
  method := rfl
  url := rfl
  guard := rfl
  body := by rw [insertTask, insertTask, halike.writableFields_eq]
  conclude := fun answer => by
    refine .ofExcept _ fun response => .ofExcept _ fun created => ?_
    cases created.key with
    | none => exact .failed _
    | some key =>
      rw [halike.type]
      exact .done (halike.persist (some key)) _

theorem updateTask_alike (identity : Identity) (url : String) :
    (updateTask tracked identity url).Alike (updateTask other identity url) where
  method := rfl
  url := rfl
  guard := rfl
  body := by rw [updateTask, updateTask, halike.changes_eq]
  conclude := fun _ => .ofExcept _ fun _ => .done (halike.persist none) _

theorem deleteTask_alike (identity : Identity) (url : String) :
    (deleteTask tracked identity url).Alike (deleteTask other identity url) where
  method := rfl
  url := rfl
  guard := rfl
  body := rfl
  conclude := fun _ => .ofExcept _ fun _ => .done halike.asDeleted _

variable (client : Client)

theorem knownPlan_alike (operation : Operation) {toTask toTask' : Identity → String → Task}
    (htasks : ∀ identity url, (toTask identity url).Alike (toTask' identity url)) :
    (client.knownPlan tracked operation toTask).Alike
      (client.knownPlan other operation toTask') := by
  have hknown : knownIdentity other operation = knownIdentity tracked operation := by
    rw [knownIdentity, knownIdentity, halike.identity?_eq, halike.state_eq]
  unfold knownPlan
  rw [hknown]
  exact .ofExcept _ fun identity => .ofExcept _ fun url => .send (htasks identity url)

theorem insertPlan_alike : (client.insertPlan tracked).Alike (client.insertPlan other) := by
  unfold insertPlan
  rw [halike.state_eq, halike.type]
  split
  · exact .ruledOut _
  · exact .ofExcept _ fun url => .send (insertTask_alike halike url)

theorem updatePlan_alike : (client.updatePlan tracked).Alike (client.updatePlan other) := by
  unfold updatePlan
  rw [halike.state_eq, halike.changes_eq]
  split
  · exact .ruledOut _
  · split
    · exact .nothing halike
    · exact knownPlan_alike halike client .update (updateTask_alike halike)

theorem deletePlan_alike : (client.deletePlan tracked).Alike (client.deletePlan other) := by
  unfold deletePlan
  rw [halike.state_eq]
  split
  · exact .ruledOut _
  · exact knownPlan_alike halike client .delete (deleteTask_alike halike)

theorem plan_alike (operation : Operation) :
    (client.plan operation tracked).Alike (client.plan operation other) := by
  cases operation with
  | save =>
    show (client.savePlan tracked).Alike (client.savePlan other)
    unfold savePlan
    rw [halike.state_eq]
    cases tracked.state with
    | new => exact insertPlan_alike halike client
    | unmodified => exact .nothing halike
    | modified => exact updatePlan_alike halike client
    | deleted => exact .ruledOut _
  | insert => exact insertPlan_alike halike client
  | update => exact updatePlan_alike halike client
  | delete => exact deletePlan_alike halike client

end tasks

end Client

/-! ### Desks that are alike -/

/-- The entities at two desks differ in hidden fields alone, and nothing else differs. -/
structure Desk.Alike {σ : Type} (desk other : Desk σ) : Prop where
  peer : other.peer = desk.peer
  sent : other.sent = desk.sent
  readings : other.readings = desk.readings
  instances : ∀ holder, Option.Rel Tracked.Alike (desk.instances holder) (other.instances holder)

namespace Desk

variable {σ : Type} {desk other : Desk σ}

theorem Alike.refl (desk : Desk σ) : desk.Alike desk := by
  refine ⟨rfl, rfl, rfl, fun holder => ?_⟩
  cases desk.instances holder with
  | none => exact .none
  | some tracked => exact .some (Tracked.Alike.refl tracked)

section changes
variable (halike : desk.Alike other)
include halike

/-- Both desks hold nothing in a place, or entities that are alike. -/
theorem Alike.held (holder : Nat) :
    (desk.instances holder = none ∧ other.instances holder = none) ∨
      ∃ tracked tracked', desk.instances holder = some tracked ∧
        other.instances holder = some tracked' ∧ tracked.Alike tracked' := by
  have hrelated := halike.instances holder
  generalize desk.instances holder = held at hrelated
  generalize other.instances holder = held' at hrelated
  cases hrelated with
  | none => exact .inl ⟨rfl, rfl⟩
  | some hheld => exact .inr ⟨_, _, rfl, rfl, hheld⟩

theorem Alike.link_eq (versions : VersionStore) : other.link versions = desk.link versions := by
  rw [link, link, halike.peer, halike.sent]

theorem Alike.afterLink (link : Link σ) : (desk.afterLink link).Alike (other.afterLink link) :=
  ⟨rfl, rfl, halike.readings, halike.instances⟩

theorem Alike.reading (feed : Nat) (reading : Reading) :
    (desk.reading feed reading).Alike (other.reading feed reading) := by
  refine ⟨halike.peer, halike.sent, ?_, halike.instances⟩
  unfold Desk.reading
  rw [halike.readings]

theorem Alike.holding (holder : Nat) {tracked tracked' : Tracked} (hheld : tracked.Alike tracked') :
    (desk.holding holder tracked).Alike (other.holding holder tracked') := by
  refine ⟨halike.peer, halike.sent, halike.readings, fun place => ?_⟩
  unfold Desk.holding
  simp only
  split
  · exact .some hheld
  · exact halike.instances place

theorem Alike.afterCreate (holder : Nat) (outcome : Except Failure Tracked) :
    (desk.afterCreate holder outcome).Alike (other.afterCreate holder outcome) := by
  cases outcome with
  | error failure => exact halike
  | ok tracked => exact halike.holding holder (Tracked.Alike.refl tracked)

theorem Alike.afterGet (holder : Nat) (result : Except Failure Tracked × Link σ) :
    (desk.afterGet holder result).Alike (other.afterGet holder result) := by
  obtain ⟨outcome, link⟩ := result
  cases outcome with
  | error failure => exact halike.afterLink link
  | ok tracked => exact (halike.afterLink link).holding holder (Tracked.Alike.refl tracked)

theorem Alike.afterStep (feed holder : Nat) (reading : Reading)
    (result : Cursor.Progress FeedItem × Cursor × Link σ) :
    (desk.afterStep feed holder reading result).Alike
      (other.afterStep feed holder reading result) := by
  obtain ⟨progress, cursor, link⟩ := result
  have hread := (halike.afterLink link).reading feed { reading with cursor := cursor }
  rcases progress with (tracked | value) | failure | _ | _
  · exact hread.holding holder (Tracked.Alike.refl tracked)
  · exact hread
  · exact hread
  · exact hread
  · exact hread

end changes

end Desk

/-! ### Programs -/

/-- Whether a move writes the fields of an entity. -/
def Move.isEdit : Move → Bool
  | .edit .. => true
  | .create .. | .get .. | .openFeed .. | .advance .. | .perform .. => false

/-- What a program does: a move, or an edit of an entity that it holds. -/
inductive Deed where
  | move (move : Move) (hmove : move.isEdit = false)
  | write (holder : Nat) (edit : Edit)

/-- The move that a deed is at a desk. -/
def Deed.moveAt {σ : Type} (desk : Desk σ) : Deed → Move
  | .move made _ => made
  | .write holder edit =>
    .edit holder (match desk.instances holder with
      | some tracked => (tracked.entity.edited edit).cells
      | none => [])

/-- Two deeds are the same, but for what is written to hidden fields. -/
inductive Deed.Alike : Deed → Deed → Prop where
  | move (move : Move) (hmove : move.isEdit = false) : Alike (.move move hmove) (.move move hmove)
  | write (holder : Nat) {edit edit' : Edit} (hedits : edit.Alike edit') :
      Alike (.write holder edit) (.write holder edit')

/-- What a move comes to for the program. -/
inductive Move.Result where
  /-- There is nothing to tell. -/
  | silent
  | received (outcome : Except Failure Tracked)
  | advanced (progress : Cursor.Progress FeedItem)
  | performed (outcome : Except Failure Unit)

/-- What is seen of a deed: the requests, the result, and the states of all entities afterwards. -/
structure Seen where
  requests : List Request
  result : Move.Result
  states : Nat → Option EntityState

namespace Desk

variable {σ : Type} [Peer σ] (client : Client)

/-- The result of a move. -/
def result (versions : VersionStore) (desk : Desk σ) : Move → Move.Result
  | .create type _ => .received (client.create type)
  | .get type id _ => .received ((client.get type id).runOn (desk.link versions)).1
  | .openFeed .. | .edit .. => .silent
  | .advance feed _ =>
    match desk.readings feed with
    | none => .silent
    | some reading => .advanced (reading.step client.resolver (desk.link versions)).1
  | .perform operation holder =>
    match desk.instances holder with
    | none => .silent
    | some tracked =>
      .performed ((client.perform operation).runOn tracked (desk.link versions)).1

omit [Peer σ] in
/-- The states of the entities that are held. -/
def states (desk : Desk σ) (holder : Nat) : Option EntityState :=
  (desk.instances holder).map Tracked.state

/-- What is seen of a program from a desk on. -/
def seen (versions : VersionStore) (desk : Desk σ) : List Deed → List Seen
  | [] => []
  | deed :: rest =>
    let move := deed.moveAt desk
    let after := desk.act client versions move
    ⟨desk.requests client versions move, desk.result client versions move, after.2.states⟩ ::
      seen after.1 after.2 rest

variable {client} {desk other : Desk σ} {versions : VersionStore}

omit [Peer σ] in
theorem Alike.states_eq (halike : desk.Alike other) : other.states = desk.states := by
  funext holder
  unfold states
  rcases halike.held holder with ⟨hnone, hnone'⟩ | ⟨tracked, tracked', hheld, hheld', hsame⟩
  · rw [hnone, hnone']
  · rw [hheld, hheld', Option.map_some, Option.map_some, hsame.state_eq]

/-- A move that is no edit does the same at desks that are alike. -/
theorem Alike.act_move (halike : desk.Alike other) (move : Move) (hmove : move.isEdit = false) :
    (other.act client versions move).1 = (desk.act client versions move).1 ∧
      (desk.act client versions move).2.Alike (other.act client versions move).2 ∧
      other.result client versions move = desk.result client versions move := by
  -- only an operation looks at an entity that is held; all else depends on what the desks share
  cases move with
  | create type holder => exact ⟨rfl, halike.afterCreate holder (client.create type), rfl⟩
  | get type id holder =>
    simp only [act, result, halike.link_eq]
    exact ⟨trivial, halike.afterGet holder _, trivial⟩
  | openFeed address type rows feed => exact ⟨rfl, halike.reading feed _, rfl⟩
  | advance feed holder =>
    simp only [act, result, halike.readings, halike.link_eq]
    cases desk.readings feed with
    | none => exact ⟨rfl, halike, trivial⟩
    | some reading => exact ⟨rfl, halike.afterStep feed holder reading _, trivial⟩
  | edit holder cells => cases hmove
  | perform operation holder =>
    rcases halike.held holder with ⟨hnone, hnone'⟩ | ⟨tracked, tracked', hheld, hheld', hsame⟩
    · simp only [act, result, hnone, hnone']
      exact ⟨trivial, halike, trivial⟩
    · -- the operation follows its plan on both sides, and the plans are alike
      obtain ⟨hresult, hafter, hlink⟩ :=
        (Client.plan_alike hsame client operation).written (desk.link versions) hsame
      rw [← Client.runOn_perform, ← Client.runOn_perform] at hresult hafter hlink
      simp only [act, result, hheld, hheld', halike.link_eq, hresult, hlink]
      refine ⟨trivial, ?_, trivial⟩
      unfold afterPerform
      rw [hlink]
      exact (halike.afterLink _).holding holder hafter

/-- Edits that are alike keep desks alike. -/
theorem Alike.act_write (halike : desk.Alike other) (holder : Nat) {edit edit' : Edit}
    (hedits : edit.Alike edit') :
    (desk.act client versions ((Deed.write holder edit).moveAt desk)).2.Alike
      (other.act client versions ((Deed.write holder edit').moveAt other)).2 := by
  refine ⟨halike.peer, halike.sent, halike.readings, fun place => ?_⟩
  simp only [Deed.moveAt, act, editing]
  by_cases hplace : place = holder
  · subst hplace
    simp only [if_true]
    rcases halike.held place with ⟨hnone, hnone'⟩ | ⟨tracked, tracked', hheld, hheld', hsame⟩
    · rw [hnone, hnone']
      exact .none
    · rw [hheld, hheld']
      exact .some (hsame.edited hedits)
  · simp only [if_neg hplace]
    exact halike.instances place

/-- **One deed.**  Deeds that are alike do the same at desks that are alike. -/
theorem Alike.deed (halike : desk.Alike other) {deed deed' : Deed} (hdeeds : deed.Alike deed') :
    let move := deed.moveAt desk
    let move' := deed'.moveAt other
    (other.act client versions move').1 = (desk.act client versions move).1 ∧
      (desk.act client versions move).2.Alike (other.act client versions move').2 ∧
      other.result client versions move' = desk.result client versions move ∧
      other.requests client versions move' = desk.requests client versions move := by
  have hrequests : ∀ {after after' : Desk σ}, after.Alike after' →
      after'.sent.drop other.sent.length = after.sent.drop desk.sent.length := by
    intro after after' hafter
    rw [hafter.sent, halike.sent]
  cases hdeeds with
  | move move hmove =>
    obtain ⟨hversions, hafter, hresult⟩ := halike.act_move move hmove
    exact ⟨hversions, hafter, hresult, hrequests hafter⟩
  | write holder hedits =>
    exact ⟨rfl, halike.act_write holder hedits, rfl, hrequests (halike.act_write holder hedits)⟩

/-- **A whole program.**  Programs that are alike are seen alike. -/
theorem Alike.seen_eq (halike : desk.Alike other) {deeds deeds' : List Deed}
    (hdeeds : List.Forall₂ Deed.Alike deeds deeds') :
    other.seen client versions deeds' = desk.seen client versions deeds := by
  -- the desks differ after the first deed, and remain alike
  induction hdeeds generalizing desk other versions with
  | nil => rfl
  | cons hfirst hrest ih =>
    obtain ⟨hversions, hafter, hresult, hrequests⟩ := halike.deed hfirst
    rw [seen, seen, hresult, hrequests, hafter.states_eq, hversions, ih hafter]

end Desk

/-! ### What is in a body -/

/-- The body of a task has names of writable fields, if there is a body. -/
theorem Client.Sends.named {client : Client} {tracked : Tracked} {operation : Operation}
    {task : Task} (hsends : client.Sends tracked operation task) {body : String}
    (hbody : task.body = some body) :
    ∃ members : Members Json, body = (Json.object members).render ∧
      members.NamedWritable tracked.entity.fields := by
  cases hsends with
  | insert hoperation hnew haddress =>
    cases hbody
    exact exists_object_of_encode tracked.namedWritable_writableFields
  | update hoperation hpersisted hchanged hknown haddress =>
    cases hbody
    exact exists_object_of_encode tracked.namedWritable_changes
  | delete hknown haddress => cases hbody

/-- A body is sent for an entity in an operation on it, and has names of its writable fields. -/
theorem Desk.named_of_requests {σ : Type} [Peer σ] {client : Client} {versions : VersionStore}
    {desk : Desk σ} {move : Move} {request : Request}
    (hsent : request ∈ desk.requests client versions move) {body : String}
    (hbody : request.body = some body) :
    ∃ operation holder tracked, move = .perform operation holder ∧
      desk.instances holder = some tracked ∧
      ∃ members : Members Json, body = (Json.object members).render ∧
        members.NamedWritable tracked.entity.fields := by
  rw [requests_eq, Option.mem_toList] at hsent
  cases move with
  | create | openFeed | edit => cases hsent
  | get type id holder =>
    obtain ⟨task, hplan, rfl⟩ := Plan.eq_send_of_request? hsent
    obtain ⟨url, -, hplan⟩ := Plan.exists_of_ofExcept hplan (by simp)
    cases hplan
    cases hbody
  | advance feed holder =>
    obtain ⟨reading, -, hrequest⟩ := Option.bind_eq_some_iff.mp hsent
    obtain ⟨url, rfl⟩ := Reading.eq_read_of_request? hrequest
    cases hbody
  | perform operation holder =>
    obtain ⟨tracked, hheld, hrequest⟩ := Option.bind_eq_some_iff.mp hsent
    obtain ⟨task, hplan, rfl⟩ := Plan.eq_send_of_request? hrequest
    exact ⟨operation, holder, tracked, rfl, hheld, (Client.sends_of_plan hplan).named hbody⟩

/-! ### Main statement -/

/-- **Hidden fields never reach the server.**  Let two programs begin at one desk and do the same,
    but for what they write to hidden fields; a field that only one of them writes is left by the
    other.  Then every deed of the two sends the same requests, has the same result, and leaves all
    entities in the same states.  And a body is only ever sent in an operation on an entity; all its
    members have names of writable fields of that entity, so that none has the name of another
    field, unless a writable one has this name, too.

    Hidden are the relationships, and the read only fields whose name no writable field has.  In a
    table whose fields have different names these are all that are not writable. -/
theorem hidden_fields_never_reach_the_server (client : Client) :
    (∀ {σ : Type} [Peer σ] (versions : VersionStore) (desk : Desk σ) (deeds deeds' : List Deed),
      List.Forall₂ Deed.Alike deeds deeds' →
        desk.seen client versions deeds' = desk.seen client versions deeds) ∧
    (∀ {σ : Type} [Peer σ] (versions : VersionStore) (desk : Desk σ) (move : Move),
      ∀ request ∈ desk.requests client versions move, ∀ body, request.body = some body →
        ∃ operation holder tracked, move = .perform operation holder ∧
          desk.instances holder = some tracked ∧
          ∃ members : Members Json, body = (Json.object members).render ∧
            members.NamedWritable tracked.entity.fields ∧
            ∀ field : Field,
              (∀ other ∈ tracked.entity.fields, other.isWritable = true →
                other.name ≠ field.name) →
              ∀ member ∈ members, member.1 ≠ field.name) ∧
    (∀ (table : List Field) (field : Field),
      field.isHidden table = true ↔ field.isRelationship = true ∨
        ∀ other ∈ table, other.isWritable = true → other.name ≠ field.name) ∧
    ∀ table : List Field, (table.map Field.name).Nodup →
      ∀ field ∈ table, field.isWritable = false →
        field.isHidden table = true ∧
          ∀ other ∈ table, other.isWritable = true → other.name ≠ field.name := by
  refine ⟨fun versions desk deeds deeds' hdeeds => (Desk.Alike.refl desk).seen_eq hdeeds, ?_,
    fun _ _ => Field.isHidden_iff, ?_⟩
  · intro σ _ versions desk move request hsent body hbody
    obtain ⟨operation, holder, tracked, hmove, hheld, members, hmembers, hnamed⟩ :=
      Desk.named_of_requests hsent hbody
    refine ⟨operation, holder, tracked, hmove, hheld, members, hmembers, hnamed, ?_⟩
    intro field hother member hmember hname
    obtain ⟨writable, hmem, hwritable, hsame⟩ := hnamed member hmember
    exact hother writable hmem hwritable (hsame.trans hname)
  · intro table hnames field hmem hother
    refine ⟨by rw [Field.isHidden_eq_of_nodup hnames hmem, hother]; rfl, ?_⟩
    intro writable hwritableMem hwritable hname
    -- the writable field of that name would be the field itself
    have hfield := List.inj_on_of_nodup_map hnames hwritableMem hmem hname
    rw [hfield, hother] at hwritable
    cases hwritable

/-! ### The account of a contact -/

namespace Desk

/-- Writes a name into the text fields and an account into the relationships. -/
def naming (name account : String) : Edit := fun _ _ field =>
  match field.type with
  | .plain .text => if field.isRelationship then some account else some name
  | _ => none

/-- A contact is made, written to and sent. -/
def introducing (account : String) : List Deed :=
  [.move (.create CommandLine.contact 0) rfl, .write 0 (naming "Ann" account),
    .move (.perform .insert 0) rfl]

theorem naming_alike (name account account' : String) :
    (naming name account).Alike (naming name account') := by
  intro table place field hshown
  have hseen : field.isRelationship = false := (Bool.or_eq_false_iff.mp hshown).1
  unfold naming
  simp only [hseen, Bool.false_eq_true, if_false]

/-- A desk where a contact has been made. -/
def withContact : Desk Recording :=
  ((start []).act Upkeep.Busy.client (.empty none) (.create CommandLine.contact 0)).2

/-- Inserting the contact is one request, with a body. -/
theorem exists_insertion_of_contact :
    ∃ request body tracked,
      withContact.requests Upkeep.Busy.client (.empty none) (.perform .insert 0) = [request] ∧
        request.body = some body ∧ withContact.instances 0 = some tracked ∧
        tracked.entity.fields = CommandLine.contact.fields :=
  ⟨_, _, _, rfl, rfl, rfl, rfl⟩

/-- The contact is sent, and its account is not seen. -/
theorem account_is_not_seen :
    (start ([] : Recording)).seen Upkeep.Busy.client (.empty none) (introducing "A2") =
        (start ([] : Recording)).seen Upkeep.Busy.client (.empty none) (introducing "A1") ∧
      ((start ([] : Recording)).seen Upkeep.Busy.client (.empty none) (introducing "A1")).map
        (·.requests.length) = [0, 0, 1] ∧
      ∃ request ∈ withContact.requests Upkeep.Busy.client (.empty none) (.perform .insert 0),
        ∃ members : Members Json, request.body = some (Json.object members).render ∧
          ∀ member ∈ members, member.1 ≠ "Account" ∧ member.1 ≠ "CreateDate" := by
  obtain ⟨hseen, hbodies, -, hhidden⟩ := hidden_fields_never_reach_the_server Upkeep.Busy.client
  have hdeeds : List.Forall₂ Deed.Alike (introducing "A1") (introducing "A2") :=
    .cons (.move _ rfl) (.cons (.write 0 (naming_alike "Ann" "A1" "A2"))
      (.cons (.move _ rfl) .nil))
  refine ⟨hseen _ _ _ _ hdeeds, rfl, ?_⟩
  obtain ⟨request, body, tracked, hsent, hbody, hheld, hfields⟩ := exists_insertion_of_contact
  have hmem :
      request ∈ withContact.requests Upkeep.Busy.client (.empty none) (.perform .insert 0) :=
    hsent ▸ List.mem_singleton_self request
  obtain ⟨_, holder, found, hmove, hfound, members, hmembers, -, hunnamed⟩ :=
    hbodies _ _ _ request hmem body hbody
  cases hmove
  cases hheld.symm.trans hfound
  rw [hfields] at hunnamed
  have hnames : (CommandLine.contact.fields.map Field.name).Nodup := by decide
  have haccount := hhidden _ hnames
    ((Field.writable "Account" "account" (.plain .text)).relationship)
    (by simp [CommandLine.contact]) rfl
  have hdate := hhidden _ hnames
    ((Field.writable "CreateDate" "create_date" (.optional (.plain .instant))).readOnly)
    (by simp [CommandLine.contact]) rfl
  exact ⟨request, hmem, members, hbody.trans (congrArg some hmembers), fun member hmember =>
    ⟨hunnamed _ haccount.2 member hmember, hunnamed _ hdate.2 member hmember⟩⟩

/-! ### A read only field with the name of a writable one -/

open Upkeep.Busy (Server result_of_send conclude_created)
open SharedVersions.Counter (body)

/-- The name on a badge, which a client may write. -/
def printedName : Field :=
  .writable "Name" "printed" (.plain .text)

/-- The name that the server has for it. -/
def registeredName : Field :=
  (Field.writable "Name" "registered" (.plain .text)).readOnly

/-- A resource with these two. -/
def badge : EntityType :=
  ⟨"Badge", "Badge", [printedName, registeredName]⟩

/-- A client that knows badges. -/
def badges : Client :=
  ⟨Settings.initial,
    Site.ofBase "https://x/sdata" (Resolver.ofCatalog (Catalog.register [] badge "badges"))⟩

/-- Writes one name into the fields that a client may write, and another into the others. -/
def registering (name : String) : Edit := fun _ _ field =>
  match field.type with
  | .plain .text => if field.isReadOnly then some name else some "Ann"
  | _ => none

/-- A badge is made, written to and sent. -/
def issuing (name : String) : List Deed :=
  [.move (.create badge 0) rfl, .write 0 (registering name), .move (.perform .insert 0) rfl]

/-- The badge before it is sent. -/
def issued (name : String) : Tracked :=
  .new ⟨badge, [⟨printedName, ("Ann" : String)⟩, ⟨registeredName, name⟩]⟩

/-- A server that accepts all it is sent. -/
def willing : Server := ⟨0⟩

/-- What the badge is sent as. -/
def issuedBody : String :=
  (Json.object [(registeredName.name, .text "Ann")]).render

/-- The server accepts the badge. -/
theorem result_of_issued (name : String) :
    let result := (badges.perform .insert).runOn (issued name) ⟨.empty none, willing, [], []⟩
    result.2.1 = (issued name).persist (some "C1") ∧
      result.2.2.sent.map Request.body = [some issuedBody] := by
  let state : Upkeep Server := ⟨issued name, ⟨.empty none, willing, [], []⟩, fun _ => none⟩
  obtain ⟨url, hplan⟩ : ∃ url, badges.plan .insert state.tracked =
    .send (Client.insertTask (issued name) url) := ⟨_, rfl⟩
  have hconclude : (Client.insertTask (issued name) url).conclude (.ok ⟨201, none, body⟩) =
      .done ((issued name).persist (some "C1")) none := conclude_created (issued name) url
  show (state.result badges .insert).2.1 = _ ∧
    (state.result badges .insert).2.2.sent.map Request.body = _
  rw [result_of_send hplan hconclude]
  exact ⟨rfl, rfl⟩

/-- What is seen while the badge is issued. -/
theorem seen_of_issuing (name : String) :
    ((start willing).seen badges (.empty none) (issuing name)).map (fun seen => seen.states 0) =
        [some .new, some .new, some ((issued name).persist (some "C1")).state] ∧
      ((start willing).seen badges (.empty none) (issuing name)).map
        (fun seen => seen.requests.map Request.body) = [[], [], [some issuedBody]] := by
  obtain ⟨hafter, hsent⟩ := result_of_issued name
  rw [← hafter, ← hsent]
  exact ⟨rfl, rfl⟩

/-- The badge is compared with the registered name once it was sent, so that its state tells this
    name; and the name of the read only field is sent, as it is that of the writable one. -/
theorem registered_name_is_seen :
    (∀ (table : List Field) (place : Nat) (field : Field), field.isWritable = true →
      registering "Bob" table place field = registering "Ann" table place field) ∧
    ((start willing).seen badges (.empty none) (issuing "Ann")).map (fun seen => seen.states 0) =
      [some .new, some .new, some .unmodified] ∧
    ((start willing).seen badges (.empty none) (issuing "Bob")).map (fun seen => seen.states 0) =
      [some .new, some .new, some .modified] ∧
    registeredName ∈ badge.fields ∧ registeredName.isWritable = false ∧
    ((start willing).seen badges (.empty none) (issuing "Bob")).map
        (fun seen => seen.requests.map Request.body) =
      [[], [], [some (Json.object [(registeredName.name, .text "Ann")]).render]] := by
  refine ⟨?_, (seen_of_issuing "Ann").1, (seen_of_issuing "Bob").1, by simp [badge], rfl,
    (seen_of_issuing "Bob").2⟩
  intro table place field hwritable
  have hwritten : field.isReadOnly = false := by
    rw [Field.isWritable, Bool.and_eq_true, Bool.not_eq_true'] at hwritable
    exact hwritable.1
  unfold registering
  simp only [hwritten, Bool.false_eq_true, if_false]

end Desk

end ResourceFeed
