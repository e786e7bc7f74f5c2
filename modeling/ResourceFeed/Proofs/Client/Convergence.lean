import ResourceFeed.CommandLine.Resources
import ResourceFeed.Proofs.Client.Bodies
import ResourceFeed.Proofs.Client.SharedVersions
import ResourceFeed.Proofs.Client.Plans
import ResourceFeed.Proofs.Value.Equality

/-! # Changes add up

    When a resource is created, all its writable fields are sent, and from
    then on only those that differ from the snapshot.  The snapshot is taken
    when the server accepts a request, so that it can be held against the
    *kept* values: for each field, the value that the last accepted request
    carried for it.

    The kept values and the snapshot need not be identical, because a field
    that was set to an equal value is not sent, although the snapshot gets the
    new value with the next update.  So the invariant is that they are the
    same up to equality of values, which is symmetric and transitive; and it
    is all that is needed, because the changes are found by equality, too.
-/

namespace ResourceFeed

/-! ### Fields with names of their own -/

/-- Two fields are told apart by their names, unless neither is writable or one of them is a
    relationship. -/
def Field.Apart (a b : Field) : Prop :=
  a.isRelationship = false → b.isRelationship = false → a.name = b.name →
    a.isWritable = false ∧ b.isWritable = false

instance (a b : Field) : Decidable (a.Apart b) :=
  inferInstanceAs (Decidable (_ → _ → _ → _))

/-- Every writable field has a name of its own among the fields that are read or sent, so that a
    body, which has values by name, can carry them all. -/
def FieldsApart (fields : List Field) : Prop :=
  fields.Pairwise Field.Apart

instance (fields : List Field) : Decidable (FieldsApart fields) :=
  inferInstanceAs (Decidable (fields.Pairwise Field.Apart))

/-- So it is if all fields have different names. -/
theorem fieldsApart_of_nodup {fields : List Field} (hnames : (fields.map Field.name).Nodup) :
    FieldsApart fields := by
  have hdiffer : fields.Pairwise fun a b => a.name ≠ b.name := List.pairwise_map.mp hnames
  exact hdiffer.imp fun hne _ _ hname => absurd hname hne

example : FieldsApart CommandLine.contact.fields ∧ FieldsApart CommandLine.account.fields := by
  decide

theorem isRelationship_of_isWritable {field : Field} (hwritable : field.isWritable = true) :
    field.isRelationship = false := by
  unfold Field.isWritable at hwritable
  rw [Bool.and_eq_true, Bool.not_eq_true', Bool.not_eq_true'] at hwritable
  exact hwritable.2

section chosen
variable {cells : List Cell} {cell : Cell} {choose : Cell → Bool}

/-- A writable cell is the only chosen one with its name. -/
theorem filter_named (hapart : FieldsApart (cells.map Cell.field)) (hmem : cell ∈ cells)
    (hwritable : cell.field.isWritable = true)
    (hseen : ∀ other, choose other = true → other.field.isRelationship = false) :
    (cells.filter choose).filter (fun other => decide (cell.field.name = other.field.name)) =
      if choose cell = true then [cell] else [] := by
  have hcell := isRelationship_of_isWritable hwritable
  induction cells with
  | nil => cases hmem
  | cons first rest ih =>
    obtain ⟨hfirst, hrest⟩ := List.pairwise_cons.mp hapart
    rcases List.mem_cons.mp hmem with rfl | hmem
    · -- no other chosen cell has the name
      have hnone : (rest.filter choose).filter
          (fun other => decide (cell.field.name = other.field.name)) = [] := by
        rw [List.filter_eq_nil_iff]
        intro other hother hname
        obtain ⟨hotherMem, hchosen⟩ := List.mem_filter.mp hother
        have hclash := hfirst other.field (List.mem_map_of_mem hotherMem) hcell
          (hseen other hchosen) (of_decide_eq_true hname)
        rw [hwritable] at hclash
        exact Bool.noConfusion hclash.1
      by_cases hchoose : choose cell = true
      · rw [List.filter_cons_of_pos hchoose, List.filter_cons_of_pos (by simp), hnone,
          if_pos hchoose]
      · rw [List.filter_cons_of_neg hchoose, hnone, if_neg hchoose]
    · rw [← ih hrest hmem]
      by_cases hchoose : choose first = true
      · have hname : cell.field.name ≠ first.field.name := by
          intro hname
          have hclash := hfirst cell.field (List.mem_map_of_mem hmem) (hseen first hchoose) hcell
            hname.symm
          rw [hwritable] at hclash
          exact Bool.noConfusion hclash.2
        rw [List.filter_cons_of_pos hchoose, List.filter_cons_of_neg (by simpa using hname)]
      · rw [List.filter_cons_of_neg hchoose]

/-- So it is found under its name if it is chosen. -/
theorem get?_chosen (choose : Cell → Bool) (hapart : FieldsApart (cells.map Cell.field))
    (hmem : cell ∈ cells) (hwritable : cell.field.isWritable = true)
    (hseen : ∀ other, choose other = true → other.field.isRelationship = false) :
    Members.get? cell.field.name (Members.ofList ((cells.filter choose).map Cell.named)) =
      if choose cell = true then some cell.value else none := by
  have hnamed : ((cells.filter choose).map Cell.named).filter
      (fun pair => decide (cell.field.name = pair.1)) =
        ((cells.filter choose).filter
          fun other => decide (cell.field.name = other.field.name)).map Cell.named :=
    List.filter_map
  rw [Members.get?_ofList, hnamed, filter_named hapart hmem hwritable hseen]
  by_cases hchoose : choose cell = true
  · rw [if_pos hchoose, if_pos hchoose]
    rfl
  · rw [if_neg hchoose, if_neg hchoose]
    rfl

/-- What is found is the value of a chosen cell. -/
theorem exists_of_get?_chosen {name : String} {value : Value}
    (hget : Members.get? name (Members.ofList ((cells.filter choose).map Cell.named)) =
      some value) :
    ∃ cell ∈ cells, choose cell = true ∧ cell.field.name = name ∧ cell.value = value := by
  rw [Members.get?_ofList] at hget
  obtain ⟨pair, hlast, rfl⟩ := Option.map_eq_some_iff.mp hget
  obtain ⟨hpair, hname⟩ := List.mem_filter.mp (List.mem_of_getLast? hlast)
  obtain ⟨cell, hcell, rfl⟩ := List.mem_map.mp hpair
  obtain ⟨hmem, hchoose⟩ := List.mem_filter.mp hcell
  exact ⟨cell, hmem, hchoose, (of_decide_eq_true hname).symm, rfl⟩

end chosen

/-! ### An entity and what the server keeps of it -/

/-- Two values are the same, or at least equal. -/
def Value.Same (a b : Value) : Prop :=
  a = b ∨ a.equal b = true

theorem Value.Same.equal_of_equal {a b c : Value} (hsame : a.Same b) (hequal : b.equal c = true) :
    a.equal c = true := by
  rcases hsame with rfl | hab
  · exact hequal
  · exact Value.equal_trans hab hequal

/-- A value that differs from one of them differs from the other. -/
theorem Value.Same.differs {a b c : Value} (hsame : a.Same b) (hdiffers : b.equal c = false) :
    a.equal c = false := by
  rcases hsame with rfl | hab
  · exact hdiffers
  · cases hac : a.equal c with
    | false => rfl
    | true =>
      have hbc := Value.equal_trans (Value.equal_symm hab) hac
      rw [hdiffers] at hbc
      cases hbc

namespace Entity

/-- The fields of an entity. -/
def fields (entity : Entity) : List Field :=
  entity.cells.map Cell.field

/-- The entity with new contents in all its cells. -/
def rewritten (entity : Entity) (contents : Nat → (field : Field) → field.type.Content) : Entity :=
  { entity with
    cells := entity.cells.mapIdx fun place cell => ⟨cell.field, contents place cell.field⟩ }

@[simp] theorem fields_rewritten (entity : Entity)
    (contents : Nat → (field : Field) → field.type.Content) :
    (entity.rewritten contents).fields = entity.fields := by
  apply List.ext_getElem
  · simp [fields, rewritten]
  · simp [fields, rewritten]

variable {entity : Entity} {cell : Cell}

theorem get?_visibleFields (hapart : FieldsApart entity.fields) (hmem : cell ∈ entity.cells)
    (hwritable : cell.field.isWritable = true) :
    Members.get? cell.field.name entity.visibleFields = some cell.value := by
  have hget := get?_chosen (fun cell => !cell.field.isRelationship) hapart hmem hwritable
    fun other hchosen => by simpa using hchosen
  rw [if_pos (by simp [isRelationship_of_isWritable hwritable])] at hget
  exact hget

theorem get?_writableFields (hapart : FieldsApart entity.fields) (hmem : cell ∈ entity.cells)
    (hwritable : cell.field.isWritable = true) :
    Members.get? cell.field.name entity.writableFields = some cell.value := by
  have hget := get?_chosen (fun cell => cell.field.isWritable) hapart hmem hwritable
    fun other => isRelationship_of_isWritable
  rw [if_pos hwritable] at hget
  exact hget

/-- A changed field is sent with the value it has now. -/
theorem get?_changes {tracked : Tracked} (hapart : FieldsApart tracked.entity.fields)
    (hmem : cell ∈ tracked.entity.cells) (hwritable : cell.field.isWritable = true) :
    Members.get? cell.field.name tracked.changes =
      if Tracked.isChanged tracked.snapshot cell = true then some cell.value else none := by
  have hget := get?_chosen
    (fun cell => cell.field.isWritable && Tracked.isChanged tracked.snapshot cell)
    hapart hmem hwritable fun other hchosen =>
      isRelationship_of_isWritable (Bool.and_eq_true_iff.mp hchosen).1
  rw [hwritable, Bool.true_and] at hget
  exact hget

end Entity

/-- The fields that a request carries for an entity. -/
def Request.carried (request : Request) (tracked : Tracked) : Record :=
  match request.method with
  | .post => tracked.writableFields
  | .put => tracked.changes
  | .get | .delete => []

/-- What a request carries is what some cells hold. -/
theorem Request.exists_cells_of_carried (request : Request) (tracked : Tracked) :
    ∃ cells : List Cell, request.carried tracked = Members.ofList (cells.map Cell.named) := by
  unfold carried
  cases request.method with
  | post | put => exact ⟨_, rfl⟩
  | get | delete => exact ⟨[], rfl⟩

/-- Whether an answer accepts a request. -/
def accepts : Except Failure Response → Bool
  | .ok response => response.isSuccess
  | .error _ => false

/-- A tracked entity, the link of its client, and the value that the server keeps for each field:
    the one that the last accepted request carried. -/
structure Upkeep (σ : Type) where
  tracked : Tracked
  link : Link σ
  kept : String → Option Value

namespace Upkeep

/-- What is done to the entity. -/
inductive Action where
  /-- Writes its fields. -/
  | edit (contents : Nat → (field : Field) → field.type.Content)
  /-- Creates or updates it. -/
  | perform (operation : Operation) (hoperation : operation ≠ .delete)

variable {σ : Type}

/-- The kept values after a record was accepted. -/
def keeping (kept : String → Option Value) (record : Record) : String → Option Value :=
  fun name => (Members.get? name record).or (kept name)

section system
variable [Peer σ] (client : Client)

/-- The kept values after an operation, which sends one request at most. -/
def keptAfter (state : Upkeep σ) (left : Link σ) : String → Option Value :=
  match (state.link.sentSince left).head? with
  | some request =>
    if accepts (Peer.answer request state.link.peer).1 then
      keeping state.kept (request.carried state.tracked)
    else state.kept
  | none => state.kept

/-- The state after an operation in place. -/
def after (state : Upkeep σ) (result : Except Failure Unit × Tracked × Link σ) : Upkeep σ :=
  ⟨result.2.1, result.2.2, state.keptAfter result.2.2⟩

/-- What an operation comes to. -/
def result (state : Upkeep σ) (operation : Operation) : Except Failure Unit × Tracked × Link σ :=
  (client.perform operation).runOn state.tracked state.link

/-- The requests that an operation sends. -/
def requests (state : Upkeep σ) (operation : Operation) : List Request :=
  state.link.sentSince (state.result client operation).2.2

/-- The state after an action. -/
def step (state : Upkeep σ) : Action → Upkeep σ
  | .edit contents =>
    { state with
      tracked := { state.tracked with entity := state.tracked.entity.rewritten contents } }
  | .perform operation _ => state.after (state.result client operation)

/-- The state of an entity that the server does not know. -/
def start (entity : Entity) (link : Link σ) : Upkeep σ :=
  ⟨Tracked.new entity, link, fun _ => none⟩

/-- The state after actions in turn. -/
def run (state : Upkeep σ) (actions : List Action) : Upkeep σ :=
  actions.foldl (step client) state

/-- The server keeps exactly the writable fields, and each value is the same as that of the
    entity, or equal to it. -/
def Converged (state : Upkeep σ) : Prop :=
  ∀ name, Option.Rel Value.Same (state.kept name)
    (Members.get? name state.tracked.writableFields)

/-! ### What an operation can do -/

/-- The outcomes of an operation that does not delete, with the states that they leave. -/
inductive Effect (state : Upkeep σ) : Except Failure Unit → Upkeep σ → Prop where
  | failed {failure link} : Effect state (.error failure) { state with link := link }
  /-- There is nothing to send. -/
  | unchanged (hpersisted : state.tracked.lifecycle = .persisted)
      (hchanges : state.tracked.changes.isEmpty = true) : Effect state (.ok ()) state
  | created {key link} (hnew : state.tracked.state = .new) :
      Effect state (.ok ()) ⟨state.tracked.persist (some key), link,
        keeping state.kept state.tracked.writableFields⟩
  /-- The server accepts the new entity, but its answer cannot be used. -/
  | unseen {failure link} (hnew : state.tracked.state = .new) :
      Effect state (.error failure) ⟨state.tracked, link,
        keeping state.kept state.tracked.writableFields⟩
  | updated {link} (hpersisted : state.tracked.lifecycle = .persisted) :
      Effect state (.ok ()) ⟨state.tracked.persist none, link,
        keeping state.kept state.tracked.changes⟩

theorem keptAfter_of_plan (state : Upkeep σ) (plan : Plan) :
    state.keptAfter (InPlace.written state.tracked (plan.runOn state.link)).2.2 =
      match plan.request? state.link.versions with
      | some request =>
        if accepts (Peer.answer request state.link.peer).1 then
          keeping state.kept (request.carried state.tracked)
        else state.kept
      | none => state.kept := by
  unfold keptAfter
  rw [InPlace.link_written, Plan.sentSince_runOn, Option.head?_toList]

omit [Peer σ] in
/-- What comes of an answer, by whether it accepts the change. -/
theorem changeOutcome_of_accepts (answer : Except Failure Response) :
    (accepts answer = false ∧ ∃ failure, Client.changeOutcome answer = .error failure) ∨
      (accepts answer = true ∧ ∃ response, Client.changeOutcome answer = .ok response) := by
  cases answer with
  | error failure => exact .inl ⟨rfl, failure, rfl⟩
  | ok response =>
    unfold accepts Client.changeOutcome
    cases hsuccess : response.isSuccess with
    | false =>
      refine .inl ⟨hsuccess, Failure.ofRefusedChange response.status response.text, ?_⟩
      simp only [hsuccess, Bool.false_eq_true, if_false]
    | true =>
      refine .inr ⟨hsuccess, response, ?_⟩
      simp only [hsuccess, if_true]

theorem result_eq (state : Upkeep σ) (operation : Operation) :
    state.result client operation =
      InPlace.written state.tracked ((client.plan operation state.tracked).runOn state.link) :=
  client.runOn_perform state.tracked state.link operation

/-- Sending a task does one of the things in `Effect`. -/
theorem effect_of_send (state : Upkeep σ) {operation : Operation} {task : Task}
    (hsends : client.Sends state.tracked operation task) (hoperation : operation ≠ .delete) :
    let result := InPlace.written state.tracked ((Plan.send task).runOn state.link)
    Effect state result.1 (state.after result) := by
  intro result
  obtain ⟨left, hrun⟩ : ∃ left, (Plan.send task).runOn state.link =
      ((task.conclude (Peer.answer (task.request state.link.versions) state.link.peer).1).outcome,
        left) := ⟨_, rfl⟩
  have hkept := state.keptAfter_of_plan (.send task)
  rw [hrun] at hkept
  unfold after
  simp only [result, hrun, hkept, Plan.request?]
  rcases changeOutcome_of_accepts
      (Peer.answer (task.request state.link.versions) state.link.peer).1 with
    ⟨haccepts, failure, hanswer⟩ | ⟨haccepts, response, hanswer⟩
  · -- whatever was sent, it is not kept
    rw [hsends.conclude_of_refused hanswer, if_neg (by rw [haccepts]; exact Bool.false_ne_true)]
    exact .failed
  -- what was sent is kept, even if the answer cannot be used
  rw [if_pos haccepts]
  cases hsends with
  | insert _ hnew haddress =>
    rcases Client.conclude_insertTask hanswer with ⟨failure, hconclude⟩ | ⟨key, note, hconclude⟩
    · rw [hconclude]
      exact .unseen hnew
    · rw [hconclude]
      exact .created hnew
  | update _ hpersisted hchanged hknown haddress =>
    obtain ⟨note, hconclude⟩ := Client.conclude_updateTask hanswer
    rw [hconclude]
    exact .updated hpersisted
  | delete => exact absurd rfl hoperation

/-- An operation does one of the things in `Effect`. -/
theorem effect_of_perform (state : Upkeep σ) {operation : Operation}
    (hoperation : operation ≠ .delete) :
    Effect state (state.result client operation).1
      (state.step client (.perform operation hoperation)) := by
  show Effect state _ (state.after (state.result client operation))
  rw [result_eq]
  cases hplan : client.plan operation state.tracked with
  | ruledOut failure =>
    rw [after, keptAfter_of_plan]
    exact .failed
  | nothing after =>
    obtain ⟨rfl, hpersisted, hchanges⟩ := Client.unchanged_of_plan hplan
    rw [Upkeep.after, keptAfter_of_plan]
    exact .unchanged hpersisted hchanges
  | send task => exact effect_of_send client state (Client.sends_of_plan hplan) hoperation

end system

/-! ### What the server holds -/

section synced

/-- The server holds the values of all writable fields. -/
def Holds (kept : String → Option Value) (entity : Entity) : Prop :=
  ∀ cell ∈ entity.cells, cell.field.isWritable = true →
    ∃ held, kept cell.field.name = some held ∧ held.Same cell.value

/-- What is known of the server: it keeps writable fields only, and once the entity is persisted
    it keeps what the snapshot has, up to equality. -/
structure Synced (state : Upkeep σ) : Prop where
  apart : FieldsApart state.tracked.entity.fields
  writable : ∀ name held, state.kept name = some held →
    ∃ field ∈ state.tracked.entity.fields, field.isWritable = true ∧ field.name = name
  agreed : state.tracked.lifecycle = .persisted →
    ∀ field ∈ state.tracked.entity.fields, field.isWritable = true →
      ∃ held known, state.kept field.name = some held ∧
        Members.get? field.name state.tracked.snapshot = some known ∧ held.Same known

variable {state : Upkeep σ}

theorem synced_start (entity : Entity) (link : Link σ) (hapart : FieldsApart entity.fields) :
    Synced (start entity link) where
  apart := hapart
  writable := by
    intro name held hkept
    cases hkept
  agreed := by
    intro hpersisted
    cases hpersisted

/-- If the server holds all writable fields and keeps no others, they have converged. -/
theorem Synced.converged (hsynced : state.Synced) (hholds : Holds state.kept state.tracked.entity) :
    state.Converged := by
  intro name
  cases hfield : Members.get? name state.tracked.writableFields with
  | some value =>
    obtain ⟨cell, hmem, hwritable, rfl, rfl⟩ := exists_of_get?_chosen hfield
    obtain ⟨held, hkept, hsame⟩ := hholds cell hmem hwritable
    rw [hkept]
    exact .some hsame
  | none =>
    cases hkept : state.kept name with
    | none => exact .none
    | some held =>
      -- a kept field would be writable, and found
      obtain ⟨field, hfieldMem, hwritable, rfl⟩ := hsynced.writable name held hkept
      obtain ⟨cell, hmem, rfl⟩ := List.mem_map.mp hfieldMem
      have hfound := Entity.get?_writableFields hsynced.apart hmem hwritable
      rw [Tracked.writableFields, hfound] at hfield
      cases hfield

/-- An accepted creation leaves nothing out. -/
theorem Synced.holds_of_created (hsynced : state.Synced) :
    Holds (keeping state.kept state.tracked.writableFields) state.tracked.entity := by
  intro cell hmem hwritable
  refine ⟨cell.value, ?_, .inl rfl⟩
  rw [keeping, Tracked.writableFields, Entity.get?_writableFields hsynced.apart hmem hwritable]
  rfl

/-- A persisted field that is not changed is held already. -/
theorem Synced.holds_of_not_isChanged (hsynced : state.Synced)
    (hpersisted : state.tracked.lifecycle = .persisted) {cell : Cell}
    (hmem : cell ∈ state.tracked.entity.cells) (hwritable : cell.field.isWritable = true)
    (hsame : Tracked.isChanged state.tracked.snapshot cell = false) :
    ∃ held, state.kept cell.field.name = some held ∧ held.Same cell.value := by
  obtain ⟨held, known, hkept, hknown, hagreed⟩ :=
    hsynced.agreed hpersisted cell.field (List.mem_map_of_mem hmem) hwritable
  rw [Tracked.isChanged, hknown, Bool.not_eq_false'] at hsame
  exact ⟨held, hkept, .inr (hagreed.equal_of_equal hsame)⟩

/-- The values of a persisted entity that the server does not hold are those that have changed. -/
theorem Synced.differs_of_isChanged (hsynced : state.Synced)
    (hpersisted : state.tracked.lifecycle = .persisted) {cell : Cell} {held : Value}
    (hmem : cell ∈ state.tracked.entity.cells) (hwritable : cell.field.isWritable = true)
    (hchanged : Tracked.isChanged state.tracked.snapshot cell = true)
    (hkept : state.kept cell.field.name = some held) : held.equal cell.value = false := by
  obtain ⟨other, known, hother, hknown, hagreed⟩ :=
    hsynced.agreed hpersisted cell.field (List.mem_map_of_mem hmem) hwritable
  rw [hkept] at hother
  cases hother
  rw [Tracked.isChanged, hknown, Bool.not_eq_true'] at hchanged
  exact hagreed.differs hchanged

/-- An accepted update of a persisted entity adds what was missing. -/
theorem Synced.holds_of_updated (hsynced : state.Synced)
    (hpersisted : state.tracked.lifecycle = .persisted) :
    Holds (keeping state.kept state.tracked.changes) state.tracked.entity := by
  intro cell hmem hwritable
  rw [keeping, Entity.get?_changes hsynced.apart hmem hwritable]
  cases hchanged : Tracked.isChanged state.tracked.snapshot cell with
  | true => exact ⟨cell.value, rfl, .inl rfl⟩
  | false => exact hsynced.holds_of_not_isChanged hpersisted hmem hwritable hchanged

/-- If nothing has changed, then nothing is missing. -/
theorem Synced.holds_of_unchanged (hsynced : state.Synced)
    (hpersisted : state.tracked.lifecycle = .persisted)
    (hchanges : state.tracked.changes.isEmpty = true) :
    Holds state.kept state.tracked.entity := by
  intro cell hmem hwritable
  apply hsynced.holds_of_not_isChanged hpersisted hmem hwritable
  have hget := Entity.get?_changes hsynced.apart hmem hwritable
  rw [List.isEmpty_iff.mp hchanges] at hget
  cases hchanged : Tracked.isChanged state.tracked.snapshot cell with
  | false => rfl
  | true =>
    rw [if_pos hchanged] at hget
    cases hget

/-- The server keeps no other fields if chosen writable ones are sent. -/
theorem Synced.writable_keeping (hsynced : state.Synced) {choose : Cell → Bool} {record : Record}
    (hrecord : record =
      Members.ofList ((state.tracked.entity.cells.filter choose).map Cell.named))
    (hchoose : ∀ cell, choose cell = true → cell.field.isWritable = true) (name : String)
    (held : Value) (hkept : keeping state.kept record name = some held) :
    ∃ field ∈ state.tracked.entity.fields, field.isWritable = true ∧ field.name = name := by
  unfold keeping at hkept
  cases hget : Members.get? name record with
  | none =>
    rw [hget] at hkept
    exact hsynced.writable name held hkept
  | some value =>
    rw [hrecord] at hget
    obtain ⟨cell, hmem, hchosen, hname, -⟩ := exists_of_get?_chosen hget
    exact ⟨cell.field, List.mem_map_of_mem hmem, hchoose cell hchosen, hname⟩

/-- A snapshot of an entity that the server holds agrees with the server. -/
theorem agreed_of_holds {kept : String → Option Value} {entity : Entity}
    (hapart : FieldsApart entity.fields) (hholds : Holds kept entity) {field : Field}
    (hfield : field ∈ entity.fields) (hwritable : field.isWritable = true) :
    ∃ held known, kept field.name = some held ∧
      Members.get? field.name entity.visibleFields = some known ∧ held.Same known := by
  obtain ⟨cell, hmem, rfl⟩ := List.mem_map.mp hfield
  obtain ⟨held, hkept, hsame⟩ := hholds cell hmem hwritable
  exact ⟨held, cell.value, hkept, Entity.get?_visibleFields hapart hmem hwritable, hsame⟩

/-- An entity that the server holds has converged once it is persisted. -/
theorem synced_persist {tracked : Tracked} {kept : String → Option Value}
    (hapart : FieldsApart tracked.entity.fields)
    (hwritable : ∀ name held, kept name = some held →
      ∃ field ∈ tracked.entity.fields, field.isWritable = true ∧ field.name = name)
    (hholds : Holds kept tracked.entity) (key : Option String) (link : Link σ) :
    Synced ⟨tracked.persist key, link, kept⟩ ∧ Converged ⟨tracked.persist key, link, kept⟩ := by
  have hsynced : Synced ⟨tracked.persist key, link, kept⟩ :=
    { apart := hapart
      writable := hwritable
      agreed := fun _ field hfield => agreed_of_holds hapart hholds hfield }
  exact ⟨hsynced, hsynced.converged hholds⟩

/-- Whatever an operation does, what is known of the server remains so, and if it succeeds, they
    have converged. -/
theorem Synced.of_effect (hsynced : state.Synced) {outcome : Except Failure Unit}
    {next : Upkeep σ} (heffect : Effect state outcome next) :
    next.Synced ∧ (outcome = .ok () → next.Converged) := by
  cases heffect with
  | failed => exact ⟨⟨hsynced.apart, hsynced.writable, hsynced.agreed⟩, nofun⟩
  | unchanged hpersisted hchanges =>
    exact ⟨hsynced, fun _ => hsynced.converged (hsynced.holds_of_unchanged hpersisted hchanges)⟩
  | @created key link hnew =>
    obtain ⟨hnext, hconverged⟩ := synced_persist hsynced.apart
      (hsynced.writable_keeping rfl fun _ => id) hsynced.holds_of_created (some key) link
    exact ⟨hnext, fun _ => hconverged⟩
  | unseen hnew =>
    refine ⟨⟨hsynced.apart, hsynced.writable_keeping rfl fun _ => id, ?_⟩, nofun⟩
    -- nothing is claimed of an entity that is still new
    intro hpersisted
    have hstill : state.tracked.lifecycle = .new := Client.lifecycle_of_new hnew
    exact absurd (hstill.symm.trans hpersisted) nofun
  | @updated link hpersisted =>
    obtain ⟨hnext, hconverged⟩ := synced_persist hsynced.apart
      (hsynced.writable_keeping rfl fun _ hchosen => (Bool.and_eq_true_iff.mp hchosen).1)
      (hsynced.holds_of_updated hpersisted) none link
    exact ⟨hnext, fun _ => hconverged⟩

end synced

/-! ### Runs -/

section runs
variable [Peer σ] {client : Client} {state : Upkeep σ}

/-- What is known of the server remains so. -/
theorem Synced.step (hsynced : state.Synced) (action : Action) :
    (state.step client action).Synced := by
  cases action with
  | edit contents =>
    -- the fields and the snapshot stay
    have hfields := state.tracked.entity.fields_rewritten contents
    exact ⟨hfields ▸ hsynced.apart, hfields ▸ hsynced.writable, hfields ▸ hsynced.agreed⟩
  | perform operation hoperation =>
    exact (hsynced.of_effect (effect_of_perform client state hoperation)).1

theorem Synced.run (hsynced : state.Synced) (actions : List Action) :
    (state.run client actions).Synced := by
  induction actions generalizing state with
  | nil => exact hsynced
  | cons action rest ih => exact ih (hsynced.step action)

/-- An operation sends one request at most.  It carries the writable fields of a new entity, or
    the changes of a persisted one. -/
theorem requests_of_plan {operation : Operation} {request : Request}
    (hoperation : operation ≠ .delete) (hsent : request ∈ state.requests client operation) :
    request.body =
        some (Entry.ofPayload (Client.payload (request.carried state.tracked))).encode ∧
      (request.method = .put → state.tracked.lifecycle = .persisted) := by
  unfold requests at hsent
  rw [result_eq, InPlace.link_written, Plan.sentSince_runOn, Option.mem_toList] at hsent
  obtain ⟨task, hplan, rfl⟩ := Plan.eq_send_of_request? hsent
  cases Client.sends_of_plan hplan with
  | insert _ hnew haddress => exact ⟨rfl, nofun⟩
  | update _ hpersisted hchanged hknown haddress => exact ⟨rfl, fun _ => hpersisted⟩
  | delete => exact absurd rfl hoperation

theorem length_requests_le (operation : Operation) :
    (state.requests client operation).length ≤ 1 := by
  unfold requests
  rw [result_eq, InPlace.link_written, Plan.sentSince_runOn]
  cases (client.plan operation state.tracked).request? state.link.versions with
  | none => exact Nat.zero_le 1
  | some request => exact Nat.le_refl 1

/-- A field that an update carries differs from what the server keeps. -/
theorem Synced.differs_of_carried (hsynced : state.Synced) {operation : Operation}
    {request : Request} (hoperation : operation ≠ .delete)
    (hsent : request ∈ state.requests client operation) (hput : request.method = .put)
    {name : String} {value held : Value}
    (hcarried : Members.get? name (request.carried state.tracked) = some value)
    (hkept : state.kept name = some held) : held.equal value = false := by
  have hpersisted := (requests_of_plan hoperation hsent).2 hput
  rw [Request.carried, hput] at hcarried
  obtain ⟨cell, hmem, hchosen, rfl, rfl⟩ := exists_of_get?_chosen hcarried
  obtain ⟨hwritable, hchanged⟩ := Bool.and_eq_true_iff.mp hchosen
  exact hsynced.differs_of_isChanged hpersisted hmem hwritable hchanged hkept

/-- **Changes add up.**  Take an entity whose writable fields have names of their own, and that the
    server does not know, edit it, create it and update it in any order, whatever the server answers.
    Then each operation that succeeds leaves the server with exactly the writable fields, each with a
    value that is the same as that of the entity or equal to it.  An operation sends one request at
    most, its body encodes the fields that the request carries, and an update carries none that the
    server has an equal value of.  What is decoded from the body are these fields, as long as
    floating-point numbers are read back and no name is reserved for the feed. -/
theorem converges_at_every_success (client : Client) (entity : Entity)
    (hapart : FieldsApart entity.fields) (link : Link σ) (actions : List Action)
    (operation : Operation) (hoperation : operation ≠ .delete) :
    let state := (start entity link).run client actions
    ((state.result client operation).1 = .ok () →
      (state.step client (.perform operation hoperation)).Converged) ∧
    (state.requests client operation).length ≤ 1 ∧
    ∀ request ∈ state.requests client operation,
      request.body =
        some (Entry.ofPayload (Client.payload (request.carried state.tracked))).encode ∧
      ((request.carried state.tracked).FloatsReadBack →
        (request.carried state.tracked).Unreserved →
        Entry.decode (Text.toBytes
          (Entry.ofPayload (Client.payload (request.carried state.tracked))).encode) =
            .ok (Entry.ofPayload (Client.payload (request.carried state.tracked)))) ∧
      (request.method = .put → ∀ name value held,
        Members.get? name (request.carried state.tracked) = some value →
        state.kept name = some held → held.equal value = false) := by
  intro state
  have hsynced : state.Synced := (synced_start entity link hapart).run actions
  refine ⟨(hsynced.of_effect (effect_of_perform client state hoperation)).2,
    length_requests_le operation, ?_⟩
  intro request hsent
  obtain ⟨cells, hcells⟩ := request.exists_cells_of_carried state.tracked
  refine ⟨(requests_of_plan hoperation hsent).1, Client.decode_payload hcells, ?_⟩
  intro hput name value held hcarried hkept
  exact hsynced.differs_of_carried hoperation hsent hput hcarried hkept

end runs

/-! ### A server that refuses an update -/

namespace Busy

open SharedVersions.Counter (body entry_of_body)

/-- A server that names every new resource alike, and refuses so many updates. -/
structure Server where
  refusals : Nat

instance : Peer Server where
  answer request server :=
    match request.method with
    | .post => (.ok ⟨201, none, body⟩, server)
    | .put =>
      match server.refusals with
      | 0 => (.ok ⟨200, none, []⟩, server)
      | left + 1 => (.ok ⟨503, none, []⟩, ⟨left⟩)
    | _ => (.ok ⟨405, none, []⟩, server)

/-- A client that knows contacts. -/
def client : Client :=
  ⟨Settings.initial,
    Site.ofBase "https://x/sdata" (Resolver.ofCatalog CommandLine.catalog)⟩

/-- Writes a name into the text fields, and nothing into the others. -/
def texts (name : String) (_ : Nat) (field : Field) : field.type.Content :=
  match field.type with
  | .plain .text => name
  | type => type.blank

/-- A new contact, and a server that will refuse one update. -/
def fresh : Upkeep Server :=
  start CommandLine.contact.fresh ⟨.empty none, ⟨1⟩, [], []⟩

/-- The contact after it was created. -/
def created : Tracked :=
  (Tracked.new CommandLine.contact.fresh).persist (some "C1")

/-- The contact with a name that was not yet sent. -/
def named : Tracked :=
  { created with entity := created.entity.rewritten (texts "Ann") }

/-- What comes of a task that is sent. -/
theorem result_of_send {client : Client} {state : Upkeep Server} {operation : Operation} {task : Task}
    {conclusion : Conclusion} (hplan : client.plan operation state.tracked = .send task)
    (hconclude : task.conclude
      (Peer.answer (task.request state.link.versions) state.link.peer).1 = conclusion) :
    state.result client operation = InPlace.written state.tracked
      ((state.link.sending (task.request state.link.versions)).concluding conclusion) := by
  rw [result_eq, hplan, ← hconclude]
  rfl

/-- The server names what it creates. -/
theorem conclude_created (tracked : Tracked) (url : String) :
    (Client.insertTask tracked url).conclude (.ok ⟨201, none, body⟩) =
      .done (tracked.persist (some "C1")) none := by
  have hanswer : Client.changeOutcome (.ok ⟨201, none, body⟩) = .ok ⟨201, none, body⟩ := rfl
  exact Client.conclude_insertTask_of_entry hanswer entry_of_body rfl

/-- The new contact is created. -/
theorem result_of_fresh :
    (fresh.result client .insert).2.1 = created ∧
      (fresh.result client .insert).2.2.peer = ⟨1⟩ := by
  obtain ⟨url, hplan⟩ : ∃ url, client.plan .insert fresh.tracked =
    .send (Client.insertTask fresh.tracked url) := ⟨_, rfl⟩
  have hconclude : (Client.insertTask fresh.tracked url).conclude (.ok ⟨201, none, body⟩) =
      .done created none := conclude_created fresh.tracked url
  rw [result_of_send hplan hconclude]
  exact ⟨rfl, rfl⟩

section named
variable {state : Upkeep Server} (hnamed : state.tracked = named)

include hnamed

theorem plan_named : ∃ identity url,
    client.plan .update state.tracked = .send (Client.updateTask named identity url) := by
  rw [hnamed]
  exact ⟨⟨"Contact", "C1"⟩, _, rfl⟩

/-- The name is refused if the server is busy. -/
theorem result_of_busy (hbusy : state.link.peer = ⟨1⟩) :
    (state.result client .update).2.1 = named ∧
      (state.result client .update).2.2.peer = ⟨0⟩ := by
  obtain ⟨identity, url, hplan⟩ := plan_named hnamed
  rw [result_of_send hplan (by rw [hbusy]), hnamed]
  refine ⟨rfl, ?_⟩
  show (Peer.answer _ state.link.peer).2 = _
  rw [hbusy]
  rfl

/-- And it is accepted otherwise. -/
theorem result_of_idle (hidle : state.link.peer = ⟨0⟩) :
    (state.result client .update).1 = .ok () := by
  obtain ⟨identity, url, hplan⟩ := plan_named hnamed
  rw [result_of_send hplan (by rw [hidle])]
  rfl

end named

/-- The contact is created and named. -/
def naming : List Action :=
  [.perform .insert nofun, .edit (texts "Ann")]

theorem run_naming :
    (fresh.run client naming).tracked = named ∧ (fresh.run client naming).link.peer = ⟨1⟩ := by
  obtain ⟨hcreated, hpeer⟩ := result_of_fresh
  refine ⟨?_, hpeer⟩
  show { (fresh.result client .insert).2.1 with
    entity := (fresh.result client .insert).2.1.entity.rewritten (texts "Ann") } = named
  rw [hcreated]
  rfl

/-- The server refuses the name, it is sent again, and then the server has it. -/
theorem refused_name_is_sent_again :
    ((fresh.run client (naming ++ [.perform .update nofun])).step client
      (.perform .update nofun)).Converged := by
  obtain ⟨hnamed, hpeer⟩ := run_naming
  obtain ⟨hstill, hidle⟩ := result_of_busy hnamed hpeer
  have hrun : fresh.run client (naming ++ [.perform .update nofun]) =
      (fresh.run client naming).after ((fresh.run client naming).result client .update) :=
    List.foldl_append
  have hsuccess :
      ((fresh.run client (naming ++ [.perform .update nofun])).result client .update).1 =
        .ok () := by
    rw [hrun]
    exact result_of_idle hstill hidle
  exact (converges_at_every_success client CommandLine.contact.fresh (by decide) _
    (naming ++ [.perform .update nofun]) .update nofun).1 hsuccess

/-! ### Two fields of one name -/

/-- A resource with two writable fields of one name. -/
def pair : EntityType :=
  ⟨"Pair", "Contact",
    [.writable "Name" "first" (.plain .text), .writable "Name" "second" (.plain .text)]⟩

/-- Writes a name into each of the two fields. -/
def twoNames (place : Nat) (field : Field) : field.type.Content :=
  match place, field.type with
  | 0, .plain .text => "Ann"
  | _, .plain .text => "Bob"
  | _, type => type.blank

/-- A new resource with two names, and a server that accepts all it is sent. -/
def twins : Upkeep Server :=
  start (pair.fresh.rewritten twoNames) ⟨.empty none, ⟨0⟩, [], []⟩

/-- The resource after it was created. -/
def createdTwins : Tracked :=
  twins.tracked.persist (some "C1")

theorem result_of_twins :
    (twins.result client .insert).1 = .ok () ∧ (twins.result client .insert).2.1 = createdTwins ∧
      (twins.result client .insert).2.2.peer = ⟨0⟩ := by
  obtain ⟨url, hplan⟩ : ∃ url, client.plan .insert twins.tracked =
    .send (Client.insertTask twins.tracked url) := ⟨_, rfl⟩
  have hconclude : (Client.insertTask twins.tracked url).conclude (.ok ⟨201, none, body⟩) =
      .done createdTwins none := conclude_created twins.tracked url
  rw [result_of_send hplan hconclude]
  exact ⟨rfl, rfl, rfl⟩

/-- The first name differs from the snapshot, which has the second one, and is sent. -/
theorem update_of_twins (state : Upkeep Server) (hcreated : state.tracked = createdTwins)
    (hidle : state.link.peer = ⟨0⟩) :
    (state.result client .update).1 = .ok () ∧
      (state.step client (.perform .update nofun)).kept "Name" = some (.text "Ann") ∧
      Members.get? "Name" (state.step client (.perform .update nofun)).tracked.writableFields =
        some (.text "Bob") := by
  obtain ⟨identity, url, hplan⟩ : ∃ identity url, client.plan .update state.tracked =
      .send (Client.updateTask createdTwins identity url) := by
    rw [hcreated]
    exact ⟨⟨"Contact", "C1"⟩, _, rfl⟩
  have hresult := @result_of_send client state _ _ _ hplan (by rw [hidle])
  refine ⟨by rw [hresult]; rfl, ?_, ?_⟩
  · show state.keptAfter (state.result client .update).2.2 "Name" = _
    have haccepts : ∀ request : Request, request.method = .put →
        accepts (Peer.answer request state.link.peer).1 = true := by
      intro request hput
      rw [hidle]
      simp only [Peer.answer, hput]
      rfl
    rw [result_eq, hplan, keptAfter_of_plan]
    simp only [Plan.request?]
    rw [if_pos (haccepts _ rfl), hcreated]
    rfl
  · show Members.get? "Name" (state.result client .update).2.1.writableFields = _
    rw [hresult]
    rfl

/-- Creating the resource and updating it succeed, and the server is left with the first name under
    the name of both fields, where the resource has the second one. -/
theorem twins_do_not_converge :
    (twins.result client .insert).1 = .ok () ∧
      ((twins.run client [.perform .insert nofun]).result client .update).1 = .ok () ∧
      ¬ ((twins.run client [.perform .insert nofun]).step client
        (.perform .update nofun)).Converged := by
  obtain ⟨hsuccess, hcreated, hidle⟩ := result_of_twins
  obtain ⟨hupdated, hkept, hfields⟩ :=
    update_of_twins (twins.run client [.perform .insert nofun]) hcreated hidle
  refine ⟨hsuccess, hupdated, fun hconverged => ?_⟩
  have hname := hconverged "Name"
  rw [hkept, hfields] at hname
  cases hname with
  | some hsame =>
    rcases hsame with hequal | hequal
    · exact absurd (Value.text.inj hequal) (by decide)
    · exact absurd hequal (by decide)

end Busy

end Upkeep
end ResourceFeed
