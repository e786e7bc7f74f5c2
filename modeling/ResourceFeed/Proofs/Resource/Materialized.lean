import ResourceFeed.Proofs.Resource.Readback

/-! # The declared reading of an entry

    A type declares how an entry is read: each field that is no relationship
    takes the member with its name, coerced to its wire form, unless that
    member is absent or null, and all other fields are as in a fresh entity.

    Materializing an entry computes exactly this.  It goes through the table
    in order and stops at the first field whose member cannot be coerced;
    then nothing is remembered.  Otherwise one version is remembered, and
    only if the entry has a key and a version.
-/

namespace ResourceFeed

/-! ### Coerced values as contents -/

namespace FieldType

theorem toInt64_ofInt_of_fits {value : Int64} (hfits : FitsInt32 value.toInt) :
    (Int32.ofInt value.toInt).toInt64 = value := by
  apply Int64.toInt_inj.mp
  rw [Int32.toInt_toInt64, Int32.toInt_ofInt_of_le hfits.1 hfits.2]

theorem coerce?_of_isNull {wire : WireForm} {raw : Json} (hnull : raw.isNull = true) :
    coerce? wire raw = some .null := by
  unfold coerce?
  rw [if_pos hnull]

/-- A raw value that is not null is coerced to what some content of the wire form shows. -/
theorem exists_plain_of_coerce? {wire : WireForm} {raw : Json} {value : Value}
    (hraw : raw.isNull = false) (hvalue : coerce? wire raw = some value) :
    ∃ plain : PlainContent wire, plainToValue wire plain = value := by
  unfold coerce? at hvalue
  rw [if_neg (by simp [hraw])] at hvalue
  cases wire with
  | text =>
    cases raw with
    | text text => exact ⟨text, Option.some.inj hvalue⟩
    | _ => exact ⟨_, Option.some.inj hvalue⟩
  | boolean =>
    obtain ⟨truth, -, rfl⟩ := Option.map_eq_some_iff.mp hvalue
    exact ⟨truth, rfl⟩
  | int32 =>
    obtain ⟨word, -, hword⟩ := Option.bind_eq_some_iff.mp hvalue
    by_cases hfits : FitsInt32 word.toInt
    · rw [if_pos hfits] at hword
      cases hword
      exact ⟨Int32.ofInt word.toInt, congrArg Value.int (toInt64_ofInt_of_fits hfits)⟩
    · rw [if_neg hfits] at hword
      cases hword
  | int64 =>
    obtain ⟨word, -, rfl⟩ := Option.map_eq_some_iff.mp hvalue
    exact ⟨word, rfl⟩
  | float =>
    obtain ⟨number, -, rfl⟩ := Option.map_eq_some_iff.mp hvalue
    exact ⟨number, rfl⟩
  | instant =>
    obtain ⟨instant, -, rfl⟩ := Option.map_eq_some_iff.mp hvalue
    exact ⟨instant, rfl⟩

/-- What a plain content shows is accepted by every field type over its wire form. -/
theorem exists_content_of_plain : ∀ (type : FieldType) (plain : PlainContent type.wire),
    ∃ content, type.ofValue? (plainToValue type.wire plain) = some content ∧
      type.valueOf content = plainToValue type.wire plain
  | .plain wire, shown => ⟨shown, plainOfValue?_plainToValue wire shown, rfl⟩
  | .optional inner, shown => by
    obtain ⟨content, haccepted, hshown⟩ := exists_content_of_plain inner shown
    refine ⟨some content, ?_, hshown⟩
    show (FieldType.optional inner).ofValue? (plainToValue inner.wire shown) = _
    rw [ofValue?_optional inner (isNull_plainToValue inner.wire shown), haccepted]
    rfl

/-- A coerced value is accepted by the field, and its content shows that value. -/
theorem exists_content_of_coerce? {type : FieldType} {raw : Json} {value : Value}
    (hraw : raw.isNull = false) (hvalue : coerce? type.wire raw = some value) :
    ∃ content, type.ofValue? value = some content ∧ type.valueOf content = value := by
  obtain ⟨plain, rfl⟩ := exists_plain_of_coerce? hraw hvalue
  exact exists_content_of_plain type plain

end FieldType

/-! ### One field -/

namespace Field

/-- What a payload gives for the field: nothing if it is a relationship, or if the member is absent
    or null. -/
def given? (payload : Members Json) (field : Field) : Option Json :=
  if field.isRelationship then none
  else (Members.get? field.name payload).filter fun raw => !raw.isNull

/-- Why the field cannot be read, if what is given for it cannot be coerced. -/
def offence? (payload : Members Json) (field : Field) : Option Failure :=
  match field.given? payload with
  | none => none
  | some raw =>
    match coerce? field.type.wire raw with
    | some _ => none
    | none => some (.format field.name raw field.type.wire)

theorem isNull_of_given? {payload : Members Json} {field : Field} {raw : Json}
    (hgiven : field.given? payload = some raw) : raw.isNull = false := by
  unfold given? at hgiven
  split at hgiven
  · cases hgiven
  · simpa using (Option.filter_eq_some_iff.mp hgiven).2

/-- A field is no offence exactly if what is given for it can be coerced. -/
theorem offence?_eq_none_iff {payload : Members Json} {field : Field} :
    field.offence? payload = none ↔
      ∀ raw, field.given? payload = some raw → ∃ value, coerce? field.type.wire raw = some value := by
  unfold offence?
  cases hgiven : field.given? payload with
  | none => simp
  | some raw => cases hvalue : coerce? field.type.wire raw <;> simp [hvalue]

theorem offence?_eq_some_iff {payload : Members Json} {field : Field} {failure : Failure} :
    field.offence? payload = some failure ↔
      ∃ raw, field.given? payload = some raw ∧ coerce? field.type.wire raw = none ∧
        failure = .format field.name raw field.type.wire := by
  unfold offence?
  cases hgiven : field.given? payload with
  | none => simp
  | some raw => cases hvalue : coerce? field.type.wire raw <;> simp [hvalue, eq_comm]

end Field

namespace Cell

variable {cell : Cell} {raw : Json}

theorem setRaw_of_accepted {value : Value} {content : cell.field.type.Content}
    (hvalue : coerce? cell.field.type.wire raw = some value)
    (haccepted : cell.field.type.ofValue? value = some content) :
    cell.setRaw raw = .ok ⟨cell.field, content⟩ := by
  rw [setRaw, hvalue, Option.bind_some, haccepted]

theorem setRaw_of_refused (hnone : coerce? cell.field.type.wire raw = none) :
    cell.setRaw raw = .error (cell.formatFailure raw) := by
  rw [setRaw, hnone, Option.bind_none]

/-- The cell holds what a payload gives for its field, coerced, or else what a fresh one holds. -/
def IsReading (payload : Members Json) (cell : Cell) : Prop :=
  match cell.field.given? payload with
  | some raw => coerce? cell.field.type.wire raw = some cell.value
  | none => cell = cell.field.fresh

end Cell

namespace Entity

theorem loadCell_eq (payload : Members Json) (cell : Cell) :
    loadCell payload cell =
      match cell.field.given? payload with
      | none => .ok cell
      | some raw => cell.setRaw raw := by
  unfold loadCell Field.given?
  cases cell.field.isRelationship with
  | true => rfl
  | false =>
    cases Members.get? cell.field.name payload with
    | none => rfl
    | some raw => cases hnull : raw.isNull <;> simp [hnull, Option.filter]

section fresh
variable {payload : Members Json} {field : Field}

theorem loadCell_fresh_of_offence {failure : Failure}
    (hoffence : field.offence? payload = some failure) :
    loadCell payload field.fresh = .error failure := by
  obtain ⟨raw, hgiven, hrefused, rfl⟩ := Field.offence?_eq_some_iff.mp hoffence
  have hload := loadCell_eq payload field.fresh
  rw [show field.fresh.field.given? payload = some raw from hgiven] at hload
  exact hload.trans (Cell.setRaw_of_refused hrefused)

/-- A field that is no offence is read as declared. -/
theorem loadCell_fresh_of_none (hnone : field.offence? payload = none) :
    ∃ cell, loadCell payload field.fresh = .ok cell ∧ cell.field = field ∧
      cell.IsReading payload := by
  have hload := loadCell_eq payload field.fresh
  cases hgiven : field.given? payload with
  | none =>
    rw [show field.fresh.field.given? payload = none from hgiven] at hload
    refine ⟨field.fresh, hload, rfl, ?_⟩
    unfold Cell.IsReading
    rw [show field.fresh.field.given? payload = none from hgiven]
    rfl
  | some raw =>
    rw [show field.fresh.field.given? payload = some raw from hgiven] at hload
    obtain ⟨value, hvalue⟩ := Field.offence?_eq_none_iff.mp hnone raw hgiven
    obtain ⟨content, haccepted, hshown⟩ :=
      FieldType.exists_content_of_coerce? (Field.isNull_of_given? hgiven) hvalue
    have hset : field.fresh.setRaw raw = .ok ⟨field, content⟩ :=
      Cell.setRaw_of_accepted hvalue haccepted
    refine ⟨⟨field, content⟩, hload.trans hset, rfl, ?_⟩
    unfold Cell.IsReading Cell.value
    simp only [hgiven]
    rw [hvalue, hshown]

/-- A payload that gives the same for the field is read alike. -/
theorem loadCell_congr {other : Members Json} {cell : Cell}
    (hsame : cell.field.given? other = cell.field.given? payload) :
    loadCell other cell = loadCell payload cell := by
  rw [loadCell_eq, loadCell_eq, hsame]

end fresh

/-! ### The whole table -/

/-- The first offence in the table is the failure. -/
theorem loadCells_fresh_of_offence {payload : Members Json} {fields : List Field}
    {failure : Failure} (hoffence : fields.findSome? (Field.offence? payload) = some failure) :
    loadCells payload (fields.map Field.fresh) = .error failure := by
  induction fields with
  | nil => cases hoffence
  | cons first rest ih =>
    -- the failure is that of the first field, or else of the rest behind it
    rw [List.findSome?_cons] at hoffence
    cases hfirst : first.offence? payload with
    | some found =>
      rw [hfirst] at hoffence
      cases hoffence
      rw [List.map_cons, loadCells, loadCell_fresh_of_offence hfirst]
      rfl
    | none =>
      rw [hfirst] at hoffence
      obtain ⟨cell, hload, -⟩ := loadCell_fresh_of_none hfirst
      rw [List.map_cons, loadCells_cons_ok hload, ih hoffence]
      rfl

/-- Without an offence every field is read as declared. -/
theorem loadCells_fresh_of_none {payload : Members Json} {fields : List Field}
    (hnone : fields.findSome? (Field.offence? payload) = none) :
    ∃ cells, loadCells payload (fields.map Field.fresh) = .ok cells ∧
      cells.map Cell.field = fields ∧ ∀ cell ∈ cells, cell.IsReading payload := by
  induction fields with
  | nil => exact ⟨[], rfl, rfl, List.forall_mem_nil _⟩
  | cons first rest ih =>
    obtain ⟨hfirst, hrest⟩ := List.forall_mem_cons.mp (List.findSome?_eq_none_iff.mp hnone)
    obtain ⟨cell, hload, hfield, hreading⟩ := loadCell_fresh_of_none hfirst
    obtain ⟨cells, hloads, hfields, hreadings⟩ := ih (List.findSome?_eq_none_iff.mpr hrest)
    refine ⟨cell :: cells, ?_, ?_, List.forall_mem_cons.mpr ⟨hreading, hreadings⟩⟩
    · rw [List.map_cons, loadCells_cons_ok hload, hloads]
      rfl
    · rw [List.map_cons, hfield, hfields]

/-- Payloads that give the same for all fields are read alike. -/
theorem loadCells_congr {payload other : Members Json} {cells : List Cell}
    (hsame : ∀ cell ∈ cells, cell.field.given? other = cell.field.given? payload) :
    loadCells other cells = loadCells payload cells := by
  induction cells with
  | nil => rfl
  | cons first rest ih =>
    obtain ⟨hfirst, hrest⟩ := List.forall_mem_cons.mp hsame
    rw [loadCells, loadCells, loadCell_congr hfirst, ih hrest]

/-- In an entity whose fields all have different names, the record has the value of each field that
    is no relationship under its name. -/
theorem get?_visibleFields_of_nodup {entity : Entity} {cell : Cell}
    (hnames : (entity.fields.map Field.name).Nodup) (hmem : cell ∈ entity.cells)
    (hvisible : cell.field.isRelationship = false) :
    Members.get? cell.field.name entity.visibleFields = some cell.value := by
  rw [fields, List.map_map] at hnames
  -- something is found, for the cell itself has the name; and no other cell has it
  cases hget : Members.get? cell.field.name entity.visibleFields with
  | none =>
    rw [visibleFields, record, Members.get?_ofList, Option.map_eq_none_iff,
      List.getLast?_eq_none_iff, List.filter_eq_nil_iff] at hget
    have hnamed : cell.named ∈ (entity.cells.filter fun cell => !cell.field.isRelationship).map
        Cell.named := List.mem_map_of_mem (List.mem_filter.mpr ⟨hmem, by simp [hvisible]⟩)
    exact absurd (decide_eq_true rfl) (hget cell.named hnamed)
  | some value =>
    obtain ⟨other, hother, -, hname, rfl⟩ := exists_of_get?_chosen hget
    rw [List.inj_on_of_nodup_map hnames hother hmem hname]

end Entity

/-! ### Main statement -/

/-- The entity that a type declares an entry to be. -/
structure Tracked.IsReadingOf (tracked : Tracked) (type : EntityType) (entry : Entry) : Prop where
  ofType : tracked.entity.type = type
  fields : tracked.entity.fields = type.fields
  cells : ∀ cell ∈ tracked.entity.cells, cell.IsReading entry.payload
  key : tracked.key = entry.key
  lifecycle : tracked.lifecycle = .persisted
  snapshot : tracked.snapshot = tracked.entity.visibleFields
  /-- The snapshot has each field that is no relationship with what the cell holds. -/
  values : ∀ cell ∈ tracked.entity.cells, cell.field.isRelationship = false →
    Members.get? cell.field.name tracked.snapshot = some cell.value

/-- The versions after an entry was read: one more if it has a key and a version. -/
def Entry.versionsAfter (entry : Entry) (kind : String) (versions : VersionStore) :
    VersionStore :=
  match entry.key, entry.version with
  | some key, some version => versions.insert ⟨kind, key⟩ version
  | _, _ => versions

theorem rememberVersion_eq {tracked : Tracked} {type : EntityType} {entry : Entry}
    (hreading : tracked.IsReadingOf type entry) (versions : VersionStore) :
    rememberVersion versions tracked entry = entry.versionsAfter type.kind versions := by
  unfold rememberVersion Tracked.identity? Entry.versionsAfter
  rw [hreading.key, hreading.ofType]
  cases entry.key with
  | none => rfl
  | some key => cases entry.version <;> rfl

section registered
variable {resolver : Resolver} {type : EntityType} {registration : Registration}

theorem blank_of_registered (hregistered : resolver.registration type.kind = .ok registration)
    (htype : registration.type = type) : resolver.blank type = .ok type.fresh := by
  rw [Resolver.blank, hregistered]
  show (if registration.type.name.identity = type.name.identity then _ else _) = _
  rw [htype, if_pos rfl]
  rfl

variable (hblank : resolver.blank type = .ok type.fresh) {entry : Entry}
include hblank

theorem materialize_of_offence {failure : Failure}
    (hoffence : type.fields.findSome? (Field.offence? entry.payload) = some failure) :
    materialize resolver type entry = .error failure := by
  rw [materialize_of_loadCells hblank, Entity.loadCells_fresh_of_offence hoffence]
  rfl

theorem materialize_of_none (hnames : (type.fields.map Field.name).Nodup)
    (hnone : type.fields.findSome? (Field.offence? entry.payload) = none) :
    ∃ tracked, materialize resolver type entry = .ok tracked ∧
      tracked.IsReadingOf type entry := by
  obtain ⟨cells, hload, hfields, hcells⟩ := Entity.loadCells_fresh_of_none hnone
  refine ⟨.received ⟨type, cells⟩ entry.key, ?_, ⟨rfl, hfields, hcells, rfl, rfl, rfl, ?_⟩⟩
  · rw [materialize_of_loadCells hblank, hload]
    rfl
  · have hnamesCells : ((Entity.fields ⟨type, cells⟩).map Field.name).Nodup := by
      rw [Entity.fields, hfields]
      exact hnames
    exact fun cell hmem => Entity.get?_visibleFields_of_nodup hnamesCells hmem

/-- Entries that differ in what no field is given are read alike. -/
theorem materialize_congr {other : Entry} (hkey : other.key = entry.key)
    (hagree : ∀ field ∈ type.fields, field.isRelationship = false →
      Members.get? field.name other.payload = Members.get? field.name entry.payload) :
    materialize resolver type other = materialize resolver type entry := by
  have hgiven : ∀ cell ∈ type.fields.map Field.fresh,
      cell.field.given? other.payload = cell.field.given? entry.payload := by
    refine List.forall_mem_map.mpr fun field hmem => ?_
    unfold Field.given?
    cases hrelationship : field.isRelationship with
    | true => simp [Field.fresh, hrelationship]
    | false => simp [Field.fresh, hrelationship, hagree field hmem hrelationship]
  rw [materialize_of_loadCells hblank, materialize_of_loadCells hblank,
    Entity.loadCells_congr hgiven, hkey]

/-- With an offence in the table nothing is remembered. -/
theorem entity_of_offence {failure : Failure}
    (hoffence : type.fields.findSome? (Field.offence? entry.payload) = some failure)
    (versions : VersionStore) :
    Conversion.entity resolver type entry versions = (Run.fail failure, versions) := by
  rw [Conversion.entity, materialize_of_offence hblank hoffence]

/-- Without one the entity is read as declared, and its version is remembered. -/
theorem entity_of_none (hnames : (type.fields.map Field.name).Nodup)
    (hnone : type.fields.findSome? (Field.offence? entry.payload) = none)
    (versions : VersionStore) :
    ∃ tracked, tracked.IsReadingOf type entry ∧
      Conversion.entity resolver type entry versions =
        (pure tracked, entry.versionsAfter type.kind versions) := by
  obtain ⟨tracked, hread, hreading⟩ := materialize_of_none hblank hnames hnone
  refine ⟨tracked, hreading, ?_⟩
  rw [Conversion.entity, hread]
  exact congrArg _ (rememberVersion_eq hreading versions)

end registered

/-- **Materializing computes the declared reading.**  Let all fields of a type have different
    names, and let the type be the one registered under its kind.

    An entry is read exactly if each field can be coerced that it gives something for.  Then every
    cell holds what is given for its field, or else what a fresh one holds, the key is that of the
    entry, the snapshot has what the cells hold, and the version of the entry is remembered once,
    if it has a key and a version.  Otherwise the first field in the table that cannot be coerced
    is the failure, and nothing is remembered.  Members that are not in the table or name a
    relationship do not matter. -/
theorem materialize_reads_entry {resolver : Resolver} {type : EntityType}
    {registration : Registration} (hnames : (type.fields.map Field.name).Nodup)
    (hregistered : resolver.registration type.kind = .ok registration)
    (htype : registration.type = type) (entry : Entry) (versions : VersionStore) :
    ((∃ tracked, (Conversion.entity resolver type entry versions).1.outcome = .ok tracked) ↔
      ∀ field ∈ type.fields, ∀ raw, field.given? entry.payload = some raw →
        ∃ value, coerce? field.type.wire raw = some value) ∧
    (∀ tracked, (Conversion.entity resolver type entry versions).1.outcome = .ok tracked →
      tracked.IsReadingOf type entry ∧
        (Conversion.entity resolver type entry versions).2 =
          entry.versionsAfter type.kind versions) ∧
    (∀ failure, (Conversion.entity resolver type entry versions).1.outcome = .error failure ↔
      type.fields.findSome? (Field.offence? entry.payload) = some failure) ∧
    (∀ failure, (Conversion.entity resolver type entry versions).1.outcome = .error failure →
      (Conversion.entity resolver type entry versions).2 = versions) ∧
    ∀ other : Entry, other.key = entry.key → other.version = entry.version →
      (∀ field ∈ type.fields, field.isRelationship = false →
        Members.get? field.name other.payload = Members.get? field.name entry.payload) →
      Conversion.entity resolver type other versions =
        Conversion.entity resolver type entry versions := by
  have hblank := blank_of_registered hregistered htype
  have hcoerced : type.fields.findSome? (Field.offence? entry.payload) = none ↔
      ∀ field ∈ type.fields, ∀ raw, field.given? entry.payload = some raw →
        ∃ value, coerce? field.type.wire raw = some value :=
    List.findSome?_eq_none_iff.trans (forall₂_congr fun _ _ => Field.offence?_eq_none_iff)
  have hother : ∀ other : Entry, other.key = entry.key → other.version = entry.version →
      (∀ field ∈ type.fields, field.isRelationship = false →
        Members.get? field.name other.payload = Members.get? field.name entry.payload) →
      Conversion.entity resolver type other versions =
        Conversion.entity resolver type entry versions := by
    intro other hkey hversion hagree
    unfold Conversion.entity rememberVersion
    rw [materialize_congr hblank hkey hagree, hversion]
  rw [← hcoerced]
  cases hoffence : type.fields.findSome? (Field.offence? entry.payload) with
  | some failure =>
    -- no entity comes of the entry, and the versions stay
    rw [entity_of_offence hblank hoffence] at hother ⊢
    refine ⟨?_, fun tracked htracked => ?_, fun other => ?_, fun _ _ => rfl, hother⟩
    · exact iff_of_false (fun ⟨_, h⟩ => nomatch h) (by simp)
    · cases htracked
    · simp [Run.fail]
  | none =>
    -- the declared reading is all that the entry can come to
    obtain ⟨tracked, hreading, hread⟩ := entity_of_none hblank hnames hoffence versions
    rw [hread] at hother ⊢
    refine ⟨iff_of_true ⟨tracked, rfl⟩ rfl, fun read htracked => ?_, fun failure => ?_,
      fun failure hfailed => ?_, hother⟩
    · cases htracked
      exact ⟨hreading, rfl⟩
    · simp
    · cases hfailed

namespace Measurement

/-- A measurement as a feed may have it, with a member that is not in the table. -/
def sent : Entry where
  key := some "M1"
  version := some "v1"
  resourceName := none
  payload := [("Device", .bool true), ("Label", .integer 7), ("Taken", .null), ("Weight", .null)]

/-- A measurement in which neither the ratio nor the time can be read. -/
def garbled : Entry :=
  { sent with payload := [("Ratio", .bool true), ("Taken", .integer 5)] }

/-- The first measurement is read and its version remembered; the second one is not. -/
theorem sent_is_read_and_garbled_is_not :
    (∃ tracked, (Conversion.entity resolver measurement sent (.empty none)).1.outcome = .ok tracked ∧
      tracked.IsReadingOf measurement sent ∧
      (Conversion.entity resolver measurement sent (.empty none)).2 =
        (VersionStore.empty none).insert ⟨"Measurement", "M1"⟩ "v1") ∧
    (Conversion.entity resolver measurement garbled (.empty none)).1.outcome =
      .error (.format "Ratio" (.bool true) .float) ∧
    (Conversion.entity resolver measurement garbled (.empty none)).2 = .empty none := by
  have hnames : (measurement.fields.map Field.name).Nodup := by decide
  have hregistered : resolver.registration measurement.kind =
      .ok ⟨"Measurement", "measurements", measurement⟩ := rfl
  obtain ⟨hsent, hread, -⟩ := materialize_reads_entry hnames hregistered rfl sent (.empty none)
  obtain ⟨-, -, hgarbled, hforgotten, -⟩ :=
    materialize_reads_entry hnames hregistered rfl garbled (.empty none)
  have hnone : measurement.fields.findSome? (Field.offence? sent.payload) = none := rfl
  obtain ⟨tracked, htracked⟩ := hsent.mpr fun field hmem =>
    Field.offence?_eq_none_iff.mp (List.findSome?_eq_none_iff.mp hnone field hmem)
  have hfailed := (hgarbled (.format "Ratio" (.bool true) .float)).mpr rfl
  exact ⟨⟨tracked, htracked, hread tracked htracked⟩, hfailed, hforgotten _ hfailed⟩

end Measurement

end ResourceFeed
