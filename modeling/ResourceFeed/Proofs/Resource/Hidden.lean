import Mathlib.Data.List.Forall2
import ResourceFeed.Proofs.Client.Convergence

/-! # Hidden fields

    Read only fields and relationships are in the cells of an entity like all
    other fields, and read only ones are in its snapshot, too.  Here two
    entities are *alike* if they differ in such fields alone.  Whatever is
    taken from an entity to be sent, and its state, is the same for two
    entities that are alike; and being accepted, being deleted and being
    edited keeps them alike.

    Records have values by name.  So a read only field with the name of a
    writable one is not hidden: its value stands in the snapshot under the
    name that the writable one is looked up by.  Where all fields have
    different names, the hidden ones are those that are not writable.
-/

namespace ResourceFeed

/-! ### Fields -/

/-- Whether a field of a table is a relationship, or no writable field has its name. -/
def Field.isHidden (table : List Field) (field : Field) : Bool :=
  field.isRelationship || table.all fun other => !(other.isWritable && other.name == field.name)

/-- A field is hidden if it is a relationship, or if no writable field has its name. -/
theorem Field.isHidden_iff {table : List Field} {field : Field} :
    field.isHidden table = true ↔ field.isRelationship = true ∨
      ∀ other ∈ table, other.isWritable = true → other.name ≠ field.name := by
  rw [isHidden, Bool.or_eq_true, List.all_eq_true]
  refine or_congr_right (forall₂_congr fun other _ => ?_)
  rw [Bool.not_eq_true', Bool.and_eq_false_imp, beq_eq_false_iff_ne]

theorem Field.isHidden_of_isWritable {table : List Field} {field : Field} (hmem : field ∈ table)
    (hwritable : field.isWritable = true) : field.isHidden table = false := by
  rw [isHidden, isRelationship_of_isWritable hwritable, Bool.false_or, List.all_eq_false]
  exact ⟨field, hmem, by simp [hwritable]⟩

/-- A field that is no relationship is not hidden if it has the name of a writable one. -/
theorem Field.isHidden_of_named {table : List Field} {field writable : Field}
    (hmem : writable ∈ table) (hwritable : writable.isWritable = true)
    (hname : writable.name = field.name) (hseen : field.isRelationship = false) :
    field.isHidden table = false := by
  rw [isHidden, hseen, Bool.false_or, List.all_eq_false]
  exact ⟨writable, hmem, by simp [hwritable, hname]⟩

/-- Where all fields have different names, those that are not writable are hidden. -/
theorem Field.isHidden_eq_of_nodup {table : List Field} {field : Field}
    (hnames : (table.map Field.name).Nodup) (hmem : field ∈ table) :
    field.isHidden table = !field.isWritable := by
  cases hwritable : field.isWritable with
  | true => exact isHidden_of_isWritable hmem hwritable
  | false =>
    -- the only field with the name is the field itself
    have hother : ∀ other ∈ table, (!(other.isWritable && other.name == field.name)) = true := by
      intro other hother
      by_cases hname : other.name = field.name
      · rw [List.inj_on_of_nodup_map hnames hother hmem hname, hwritable]
        rfl
      · simp [hname]
    rw [isHidden, List.all_eq_true.mpr hother, Bool.or_true]
    rfl

/-! ### Lists that differ in hidden elements -/

/-- Of two lists side by side the same is chosen, if elements that stand side by side are chosen
    alike and mapped alike. -/
theorem map_filter_eq_of_forall₂ {α β : Type} {related : α → α → Prop} {choose choose' : α → Bool}
    {pick : α → β} {list list' : List α} (hrelated : List.Forall₂ related list list')
    (hsame : ∀ a ∈ list, ∀ b, related a b →
      choose' b = choose a ∧ (choose a = true → pick b = pick a)) :
    (list'.filter choose').map pick = (list.filter choose).map pick := by
  induction hrelated with
  | nil => rfl
  | cons hfirst hrest ih =>
    obtain ⟨hhead, htail⟩ := List.forall_mem_cons.mp hsame
    obtain ⟨hchoose, hpick⟩ := hhead _ hfirst
    rename_i first first' rest rest'
    cases hchosen : choose first with
    | true =>
      rw [List.filter_cons_of_pos (hchoose.trans hchosen), List.filter_cons_of_pos hchosen,
        List.map_cons, List.map_cons, hpick hchosen, ih htail]
    | false =>
      rw [List.filter_cons_of_neg (by simp [hchoose, hchosen]),
        List.filter_cons_of_neg (by simp [hchosen]), ih htail]

/-- Functions that keep a relation side by side keep it for lists. -/
theorem forall₂_mapIdx {α β : Type} {related : α → α → Prop} {related' : β → β → Prop}
    {list list' : List α} (hrelated : List.Forall₂ related list list') {f f' : Nat → α → β}
    (hkeep : ∀ place a b, related a b → related' (f place a) (f' place b)) :
    List.Forall₂ related' (list.mapIdx f) (list'.mapIdx f') := by
  induction hrelated generalizing f f' with
  | nil => exact .nil
  | cons hfirst hrest ih =>
    rw [List.mapIdx_cons, List.mapIdx_cons]
    exact .cons (hkeep 0 _ _ hfirst) (ih fun place => hkeep (place + 1))

/-! ### Entities that differ in hidden fields -/

/-- Two cells of one field hold the same, unless the field is hidden. -/
def Cell.Alike (table : List Field) (cell other : Cell) : Prop :=
  other.field = cell.field ∧ (cell.field.isHidden table = false → other = cell)

/-- Two tracked entities differ in hidden fields alone. -/
structure Tracked.Alike (tracked other : Tracked) : Prop where
  type : other.entity.type = tracked.entity.type
  key : other.key = tracked.key
  lifecycle : other.lifecycle = tracked.lifecycle
  cells : List.Forall₂ (Cell.Alike tracked.entity.fields) tracked.entity.cells other.entity.cells
  /-- The snapshots have the same under the names of writable fields. -/
  snapshot : ∀ field ∈ tracked.entity.fields, field.isWritable = true →
    Members.get? field.name other.snapshot = Members.get? field.name tracked.snapshot

namespace Tracked

theorem Alike.refl (tracked : Tracked) : tracked.Alike tracked :=
  ⟨rfl, rfl, rfl, List.forall₂_same.mpr fun _ _ => ⟨rfl, fun _ => rfl⟩, fun _ _ _ => rfl⟩

variable {tracked other : Tracked}

/-- Cells of writable fields are the same. -/
theorem eq_of_isWritable {cell cell' : Cell} (hmem : cell ∈ tracked.entity.cells)
    (hcells : cell.Alike tracked.entity.fields cell') (hwritable : cell.field.isWritable = true) :
    cell' = cell :=
  hcells.2 (Field.isHidden_of_isWritable (List.mem_map_of_mem hmem) hwritable)

variable (halike : tracked.Alike other)
include halike

theorem Alike.fields_eq : other.entity.fields = tracked.entity.fields := by
  have hfields : ∀ {table : List Field} {cells cells' : List Cell},
      List.Forall₂ (Cell.Alike table) cells cells' →
        cells'.map Cell.field = cells.map Cell.field := by
    intro table cells cells' hcells
    induction hcells with
    | nil => rfl
    | cons hfirst hrest ih => rw [List.map_cons, List.map_cons, hfirst.1, ih]
  exact hfields halike.cells

theorem Alike.identity?_eq : other.identity? = tracked.identity? := by
  rw [identity?, identity?, halike.key, halike.type]

theorem Alike.writableFields_eq : other.writableFields = tracked.writableFields := by
  have hsame : ∀ cell ∈ tracked.entity.cells, ∀ cell',
      cell.Alike tracked.entity.fields cell' →
        cell'.field.isWritable = cell.field.isWritable ∧
          (cell.field.isWritable = true → cell'.named = cell.named) := by
    intro cell hmem cell' hcells
    exact ⟨congrArg Field.isWritable hcells.1, fun hwritable =>
      congrArg Cell.named (eq_of_isWritable hmem hcells hwritable)⟩
  exact congrArg Members.ofList (map_filter_eq_of_forall₂ halike.cells hsame)

/-- The same writable fields differ from the snapshot, with the same values. -/
theorem Alike.changes_eq : other.changes = tracked.changes := by
  have hsame : ∀ cell ∈ tracked.entity.cells, ∀ cell',
      cell.Alike tracked.entity.fields cell' →
        (cell'.field.isWritable && isChanged other.snapshot cell') =
            (cell.field.isWritable && isChanged tracked.snapshot cell) ∧
          ((cell.field.isWritable && isChanged tracked.snapshot cell) = true →
            cell'.named = cell.named) := by
    intro cell hmem cell' hcells
    -- a cell that is not writable counts neither here nor there
    cases hwritable : cell.field.isWritable with
    | false =>
      rw [hcells.1, hwritable]
      exact ⟨rfl, fun hchosen => Bool.noConfusion hchosen⟩
    | true =>
      rw [eq_of_isWritable hmem hcells hwritable, hwritable]
      refine ⟨?_, fun _ => rfl⟩
      unfold isChanged
      rw [halike.snapshot cell.field (List.mem_map_of_mem hmem) hwritable]
  exact congrArg Members.ofList (map_filter_eq_of_forall₂ halike.cells hsame)

theorem Alike.state_eq : other.state = tracked.state := by
  rw [state, state, halike.lifecycle, halike.changes_eq]

/-! ### What keeps entities alike -/

/-- The records of all visible fields have the same under the names of writable ones. -/
theorem Alike.get?_visibleFields {field : Field} (hmem : field ∈ tracked.entity.fields)
    (hwritable : field.isWritable = true) :
    Members.get? field.name other.entity.visibleFields =
      Members.get? field.name tracked.entity.visibleFields := by
  have hchoose : ∀ cells : List Cell,
      ((cells.filter fun cell => !cell.field.isRelationship).map Cell.named).filter
          (fun pair => decide (field.name = pair.1)) =
        (cells.filter fun cell =>
          decide (field.name = cell.field.name) && !cell.field.isRelationship).map Cell.named := by
    intro cells
    rw [List.filter_map, List.filter_filter]
    rfl
  have hsame : ∀ cell ∈ tracked.entity.cells, ∀ cell',
      cell.Alike tracked.entity.fields cell' →
        (decide (field.name = cell'.field.name) && !cell'.field.isRelationship) =
            (decide (field.name = cell.field.name) && !cell.field.isRelationship) ∧
          ((decide (field.name = cell.field.name) && !cell.field.isRelationship) = true →
            cell'.named = cell.named) := by
    intro cell _ cell' hcells
    refine ⟨by rw [hcells.1], fun hchosen => ?_⟩
    -- whatever is recorded under the name of a writable field is not hidden
    obtain ⟨hname, hseen⟩ := Bool.and_eq_true_iff.mp hchosen
    have hshown := Field.isHidden_of_named hmem hwritable (of_decide_eq_true hname)
      (Bool.not_eq_true' _ ▸ hseen)
    rw [hcells.2 hshown]
  rw [Entity.visibleFields, Entity.record, Entity.visibleFields, Entity.record,
    Members.get?_ofList, Members.get?_ofList, hchoose, hchoose,
    map_filter_eq_of_forall₂ halike.cells hsame]

theorem Alike.persist (key : Option String) : (tracked.persist key).Alike (other.persist key) where
  type := halike.type
  key := congrArg key.or halike.key
  lifecycle := rfl
  cells := halike.cells
  snapshot := fun _ hmem hwritable => halike.get?_visibleFields hmem hwritable

theorem Alike.asDeleted : tracked.asDeleted.Alike other.asDeleted :=
  { halike with lifecycle := rfl }

end Tracked

/-! ### Edits -/

/-- What is written in the cells of an entity: for a table, a place in it and the field there, the
    new contents, or nothing if the cell is left. -/
abbrev Edit := List Field → Nat → (field : Field) → Option field.type.Content

/-- Two edits write the same in all fields that are not hidden. -/
def Edit.Alike (edit other : Edit) : Prop :=
  ∀ table place field, field.isHidden table = false →
    other table place field = edit table place field

/-- The cell with new contents, if there are any. -/
def Cell.edited (cell : Cell) : Option cell.field.type.Content → Cell
  | some content => ⟨cell.field, content⟩
  | none => cell

/-- The entity with an edit made in all its cells. -/
def Entity.edited (entity : Entity) (edit : Edit) : Entity :=
  { entity with
    cells := entity.cells.mapIdx fun place cell =>
      cell.edited (edit entity.fields place cell.field) }

theorem Cell.field_edited (cell : Cell) (content? : Option cell.field.type.Content) :
    (cell.edited content?).field = cell.field := by
  cases content? with
  | none => rfl
  | some content => rfl

theorem Entity.fields_edited (entity : Entity) (edit : Edit) :
    (entity.edited edit).fields = entity.fields := by
  apply List.ext_getElem
  · simp [fields, edited]
  · simp [fields, edited, Cell.field_edited]

theorem Cell.Alike.edited {table : List Field} {cell other : Cell} (hcells : cell.Alike table other)
    {write write' : (field : Field) → Option field.type.Content}
    (hwrite : ∀ field, field.isHidden table = false → write' field = write field) :
    (cell.edited (write cell.field)).Alike table (other.edited (write' other.field)) := by
  refine ⟨?_, fun hseen => ?_⟩
  · rw [field_edited, field_edited, hcells.1]
  · rw [field_edited] at hseen
    rw [hcells.2 hseen, hwrite cell.field hseen]

/-- Edits that are alike keep entities alike. -/
theorem Tracked.Alike.edited {tracked other : Tracked} (halike : tracked.Alike other)
    {edit edit' : Edit} (hedits : edit.Alike edit') :
    ({ tracked with entity := tracked.entity.edited edit } : Tracked).Alike
      { other with entity := other.entity.edited edit' } where
  type := halike.type
  key := halike.key
  lifecycle := halike.lifecycle
  cells := by
    show List.Forall₂ (Cell.Alike (tracked.entity.edited edit).fields)
      (tracked.entity.cells.mapIdx _) (other.entity.cells.mapIdx _)
    rw [tracked.entity.fields_edited, halike.fields_eq]
    exact forall₂_mapIdx halike.cells fun place _ _ hcells =>
      hcells.edited fun field => hedits tracked.entity.fields place field
  snapshot := fun field hmem hwritable =>
    halike.snapshot field (tracked.entity.fields_edited edit ▸ hmem) hwritable

/-! ### Names that are sent -/

/-- All members have names of writable fields of a table. -/
def Members.NamedWritable {α : Type} (table : List Field) (members : Members α) : Prop :=
  ∀ member ∈ members, ∃ field ∈ table, field.isWritable = true ∧ field.name = member.1

/-- A record of writable cells has names of writable fields. -/
theorem namedWritable_of_chosen {cells : List Cell} {choose : Cell → Bool}
    (hwritable : ∀ cell, choose cell = true → cell.field.isWritable = true) :
    (Members.ofList ((cells.filter choose).map Cell.named)).NamedWritable
      (cells.map Cell.field) := by
  intro member hmem
  obtain ⟨cell, hcell, rfl⟩ := List.mem_map.mp (Members.mem_of_mem_ofList hmem)
  obtain ⟨hcell, hchosen⟩ := List.mem_filter.mp hcell
  exact ⟨cell.field, List.mem_map_of_mem hcell, hwritable cell hchosen, rfl⟩

namespace Tracked

theorem namedWritable_writableFields (tracked : Tracked) :
    Members.NamedWritable tracked.entity.fields tracked.writableFields :=
  namedWritable_of_chosen fun _ hchosen => hchosen

theorem namedWritable_changes (tracked : Tracked) :
    Members.NamedWritable tracked.entity.fields tracked.changes :=
  namedWritable_of_chosen fun _ hchosen => (Bool.and_eq_true_iff.mp hchosen).1

end Tracked

/-- What is sent for a record is an object with names of that record. -/
theorem exists_object_of_encode {table : List Field} {record : Record}
    (hnamed : Members.NamedWritable table record) :
    ∃ members : Members Json,
      (Entry.ofPayload (Client.payload record)).encode = (Json.object members).render ∧
        members.NamedWritable table := by
  refine ⟨_, rfl, fun member hmem => ?_⟩
  rcases Members.mem_foldl_insert hmem with hnone | hpayload
  · cases hnone
  · obtain ⟨named, hnamedMem, rfl⟩ := List.mem_map.mp hpayload
    exact hnamed named hnamedMem

end ResourceFeed
