import Mathlib.Data.List.Pairwise
import ResourceFeed.Client.Operations
import ResourceFeed.Proofs.Calendar.Text
import ResourceFeed.Proofs.Client.Synchronised

/-! # What was written is read back

    A new resource is sent as the JSON forms of its writable fields, and a
    resource is read by coercing the members of its entry to the wire forms of
    its fields.  The two are inverse to each other but for two things: a
    number that is not finite has no JSON form, so that its field comes back
    as in a fresh entity, and an instant in a year of another form than four
    digits cannot be read, so that the whole resource cannot be.

    For one field this follows from how its value is shown and accepted, wire
    form by wire form.  Reading goes through the fields in the order of the
    table, so that the first field that cannot be read decides.
-/

namespace ResourceFeed

/-! ### Finite numbers -/

section finite
open Float.Model (UnpackedFloat Format)

theorem exponent_of_isFinite {x : Float} (hfinite : Decimal.isFinite x = true) :
    x.toBits.toNat / 2 ^ 52 % 2 ^ 11 ≠ 2047 := by
  intro hexponent
  unfold Decimal.isFinite Decimal.Binary64.ofFloat Decimal.Binary64.ofBits at hfinite
  simp only [Nat.pow_eq, hexponent, if_true] at hfinite
  split at hfinite
  · rename_i hparts
    split at hparts <;> cases hparts
  · cases hfinite

/-- A finite number is a number. -/
theorem isNaN_of_isFinite {x : Float} (hfinite : Decimal.isFinite x = true) : x.isNaN = false := by
  have hexponent : @UnpackedFloat.unpackExponent Format.binary64 x.toModel.toBits.toBitVec ≠
      -1#11 := by
    intro hall
    have hvalue := congrArg BitVec.toNat hall
    have hbits : (@UnpackedFloat.unpackExponent Format.binary64 x.toModel.toBits.toBitVec).toNat =
        x.toBits.toNat / 2 ^ 52 % 2 ^ 11 := by
      show (x.toModel.toBits.toBitVec.extractLsb 62 52).toNat = _
      rw [BitVec.extractLsb_toNat, Nat.shiftRight_eq_div_pow]
      rfl
    rw [hbits] at hvalue
    exact exponent_of_isFinite hfinite hvalue
  show (UnpackedFloat.unpack Format.binary64 x.toModel.toBits.toBitVec).isNaN = false
  unfold UnpackedFloat.unpack
  dsimp only
  rw [if_neg hexponent]
  -- all other exponents are those of zeros and finite numbers
  by_cases hsmall : @UnpackedFloat.unpackExponent Format.binary64 x.toModel.toBits.toBitVec = 0#11
  · rw [if_pos hsmall]
    by_cases hzero : @UnpackedFloat.unpackMantissa Format.binary64 x.toModel.toBits.toBitVec = 0#52
    · rw [dif_pos hzero]
      rfl
    · rw [dif_neg hzero]
      rfl
  · rw [if_neg hsmall]
    rfl

end finite

/-! ### One value -/

/-- Whether a value is a number that has no JSON form. -/
def Value.isLost : Value → Bool
  | .float value => !Decimal.isFinite value
  | _ => false

/-- The instant that a value is, if it is in a year of another form than four digits. -/
def Value.unreadable? : Value → Option Calendar.Instant
  | .instant t => if t.HasPlainYear then none else some t
  | _ => none

theorem Value.eq_null_of_isNull {value : Value} (hnull : value.isNull = true) : value = .null := by
  cases value with
  | null => rfl
  | _ => cases hnull

theorem Value.isNotNumber_of_kept {value : Value} (hkept : value.isLost = false) :
    value.isNotNumber = false := by
  cases value with
  | float x =>
    have hfinite : Decimal.isFinite x = true := by
      rw [← Bool.not_eq_false']
      exact hkept
    exact isNaN_of_isFinite hfinite
  | _ => rfl

theorem Value.eq_instant_of_unreadable {value : Value} {t : Calendar.Instant}
    (hunreadable : value.unreadable? = some t) : value = .instant t ∧ ¬ t.HasPlainYear := by
  cases value with
  | instant other =>
    have hsome : (if other.HasPlainYear then none else some other) = some t := hunreadable
    by_cases hyear : other.HasPlainYear
    · rw [if_pos hyear] at hsome
      cases hsome
    · rw [if_neg hyear] at hsome
      cases hsome
      exact ⟨rfl, hyear⟩
  | _ => cases hunreadable

/-- An instant is one that a clock can show. -/
def Value.IsProper (value : Value) : Prop :=
  match value with
  | .instant t => t.IsProper
  | _ => True

instance (value : Value) : Decidable value.IsProper :=
  match value with
  | .instant t => inferInstanceAs (Decidable t.IsProper)
  | .null | .bool _ | .int _ | .float _ | .text _ | .record _ => .isTrue trivial

namespace FieldType

/-- Whether a field of the type may hold nothing. -/
def isOptional : FieldType → Bool
  | .plain _ => false
  | .optional _ => true

theorem isNull_plainToValue (wire : WireForm) (content : PlainContent wire) :
    (plainToValue wire content).isNull = false := by
  cases wire <;> rfl

theorem coerce?_instant (text : String) :
    coerce? .instant (.text text) = (Calendar.instant? text).map .instant := rfl

theorem coerceInteger?_toInt (value : Int64) : coerceInteger? (.integer value.toInt) = some value :=
  int64OfInt?_eq_some_iff.mpr rfl

/-- What a wire form shows is read from its JSON form. -/
theorem coerce?_plainToValue {wire : WireForm} {content : PlainContent wire}
    (hkept : (plainToValue wire content).isLost = false)
    (hreadable : (plainToValue wire content).unreadable? = none)
    (hproper : (plainToValue wire content).IsProper) :
    coerce? wire (plainToValue wire content).toJson = some (plainToValue wire content) := by
  cases wire with
  | text => rfl
  | boolean => rfl
  | int32 =>
    have hfits : FitsInt32 content.toInt64.toInt := by
      rw [Int32.toInt_toInt64]
      exact ⟨content.le_toInt, content.toInt_lt⟩
    show (coerceInteger? (.integer content.toInt64.toInt)).bind _ = _
    rw [coerceInteger?_toInt, Option.bind_some, if_pos hfits]
    rfl
  | int64 =>
    show (coerceInteger? (.integer content.toInt)).map _ = _
    rw [coerceInteger?_toInt]
    rfl
  | float =>
    have hfinite : Decimal.isFinite content = true := by
      rw [← Bool.not_eq_false']
      exact hkept
    have hjson : (plainToValue .float content).toJson = .float content := by
      rw [plainToValue, Value.toJson, if_pos hfinite]
    rw [hjson]
    rfl
  | instant =>
    have hyear : content.HasPlainYear := by
      by_contra hother
      have hnone : (if content.HasPlainYear then none else some content) = none := hreadable
      rw [if_neg hother] at hnone
      cases hnone
    rw [plainToValue, Value.toJson, coerce?_instant, Calendar.instant?_text hproper hyear,
      Option.map_some]

/-- An instant in another year is not. -/
theorem coerce?_of_unreadable {t : Calendar.Instant} (hyear : ¬ t.HasPlainYear) :
    coerce? .instant (Value.instant t).toJson = none := by
  rw [Value.toJson, coerce?_instant, Calendar.instant?_text_of_other_year hyear, Option.map_none]

/-- What a plain content shows is accepted as a content of an optional field, too. -/
theorem ofValue?_optional (inner : FieldType) {value : Value} (hsome : value.isNull = false) :
    (FieldType.optional inner).ofValue? value =
      (inner.ofValue? value).map (some : inner.Content → Option inner.Content) := by
  cases value with
  | null => cases hsome
  | _ => rfl

/-- The contents of a field are nothing, or a plain content that the field accepts again. -/
theorem valueOf_cases : ∀ (type : FieldType) (content : type.Content),
    type.isOptional = true ∧ type.valueOf content = .null ∨
      ∃ plain : PlainContent type.wire, type.valueOf content = plainToValue type.wire plain ∧
        type.ofValue? (plainToValue type.wire plain) = some content
  | .plain wire, content => .inr ⟨content, rfl, plainOfValue?_plainToValue wire content⟩
  | .optional _, none => .inl ⟨rfl, rfl⟩
  | .optional inner, some content => by
    rcases valueOf_cases inner content with ⟨-, hnull⟩ | ⟨plain, hvalue, haccepted⟩
    · exact .inl ⟨rfl, hnull⟩
    · refine .inr ⟨plain, hvalue, ?_⟩
      have hsome := isNull_plainToValue inner.wire plain
      show (FieldType.optional inner).ofValue? (plainToValue inner.wire plain) = _
      rw [ofValue?_optional inner hsome, haccepted]
      rfl

/-- Whether a field of the type can hold nothing in one way at most. -/
def isFlat : FieldType → Bool
  | .plain _ | .optional (.plain _) => true
  | .optional (.optional _) => false

/-- A flat type has at most one way to hold nothing. -/
theorem eq_of_isNull_of_isFlat : ∀ {type : FieldType} {a b : type.Content}, type.isFlat = true →
    (type.valueOf a).isNull = true → (type.valueOf b).isNull = true → a = b
  | .plain wire, a, _, _, ha, _ =>
    absurd ((isNull_plainToValue wire a).symm.trans ha) Bool.false_ne_true
  | .optional (.plain wire), some a, _, _, ha, _ =>
    absurd ((isNull_plainToValue wire a).symm.trans ha) Bool.false_ne_true
  | .optional (.plain wire), none, some b, _, _, hb =>
    absurd ((isNull_plainToValue wire b).symm.trans hb) Bool.false_ne_true
  | .optional (.plain _), none, none, _, _, _ => rfl

/-- A wire form shows an instant only if it is the one of instants. -/
theorem wire_of_instant {wire : WireForm} {plain : PlainContent wire} {t : Calendar.Instant}
    (hvalue : plainToValue wire plain = .instant t) : wire = .instant := by
  cases wire with
  | instant => rfl
  | _ => cases hvalue

end FieldType

/-! ### One field -/

/-- The cell of a field in a fresh entity. -/
def Field.fresh (field : Field) : Cell :=
  ⟨field, field.initial⟩

/-- What is sent as null is nothing, or a number that has no JSON form. -/
theorem Value.isNull_toJson (value : Value) :
    value.toJson.isNull = (value.isNull || value.isLost) := by
  cases value with
  | float value =>
    rw [toJson, isLost]
    cases Decimal.isFinite value <;> rfl
  | _ => rfl

namespace Cell

/-- The name and the instant of a cell that is sent but cannot be read. -/
def unreadable? (cell : Cell) : Option (String × Calendar.Instant) :=
  if cell.field.isWritable then cell.value.unreadable?.map fun t => (cell.field.name, t) else none

/-- What comes back of a cell: itself if it is sent, unless it is sent as null. -/
def readBack (cell : Cell) : Cell :=
  if cell.field.isWritable && !cell.value.toJson.isNull then cell else cell.field.fresh

/-- A cell takes its value from the JSON form of that. -/
theorem setRaw_toJson {cell : Cell} (hsent : cell.value.toJson.isNull = false)
    (hreadable : cell.value.unreadable? = none) (hproper : cell.value.IsProper) :
    cell.field.fresh.setRaw cell.value.toJson = .ok cell := by
  rw [Value.isNull_toJson, Bool.or_eq_false_iff] at hsent
  obtain ⟨hsome, hkept⟩ := hsent
  obtain ⟨field, content⟩ := cell
  rcases field.type.valueOf_cases content with ⟨-, hnull⟩ | ⟨plain, hvalue, haccepted⟩
  · rw [value, hnull] at hsome
    cases hsome
  · have hcell : Cell.value ⟨field, content⟩ = FieldType.plainToValue field.type.wire plain :=
      hvalue
    rw [hcell] at hkept hreadable hproper ⊢
    unfold setRaw Field.fresh
    simp only
    rw [FieldType.coerce?_plainToValue hkept hreadable hproper, Option.bind_some, haccepted]

/-- An instant in another year than those of four digits is refused. -/
theorem setRaw_unreadable {cell : Cell} {t : Calendar.Instant} (hvalue : cell.value = .instant t)
    (hyear : ¬ t.HasPlainYear) :
    cell.field.fresh.setRaw cell.value.toJson =
      .error (.format cell.field.name (.text t.text) .instant) := by
  have hwire : cell.field.type.wire = .instant := by
    rcases cell.field.type.valueOf_cases cell.content with ⟨-, hnull⟩ | ⟨plain, hplain, -⟩
    · rw [value, hnull] at hvalue
      cases hvalue
    · exact FieldType.wire_of_instant (hplain.symm.trans hvalue)
  unfold setRaw formatFailure Field.fresh
  simp only
  rw [hwire, hvalue, FieldType.coerce?_of_unreadable hyear, Option.bind_none]
  rfl

end Cell

/-! ### The payload of an entity -/

theorem get?_payload (name : String) (record : Record) :
    Members.get? name (Client.payload record) = (Members.get? name record).map Value.toJson := by
  induction record with
  | nil => rfl
  | cons member rest ih =>
    obtain ⟨other, value⟩ := member
    show (if name = other then some value.toJson else Members.get? name (Client.payload rest)) =
      (if name = other then some value else Members.get? name rest).map Value.toJson
    by_cases hname : name = other
    · rw [if_pos hname, if_pos hname]
      rfl
    · rw [if_neg hname, if_neg hname, ih]

instance : Std.Symm Field.Apart where
  symm _ _ hapart := fun hb ha hname => (hapart ha hb hname.symm).symm

section loading
variable {entity : Entity} {cell : Cell}

/-- No field that is only read has the name of one that is sent. -/
theorem get?_writableFields_of_other (hapart : FieldsApart entity.fields)
    (hmem : cell ∈ entity.cells) (hseen : cell.field.isRelationship = false)
    (hother : cell.field.isWritable = false) :
    Members.get? cell.field.name entity.writableFields = none := by
  cases hget : Members.get? cell.field.name entity.writableFields with
  | none => rfl
  | some value =>
    obtain ⟨sent, hsent, hwritable, hname, -⟩ := exists_of_get?_chosen hget
    have hne : sent.field ≠ cell.field := by
      intro hsame
      rw [hsame, hother] at hwritable
      cases hwritable
    have hclash := hapart.forall (List.mem_map_of_mem hsent) (List.mem_map_of_mem hmem) hne
      (isRelationship_of_isWritable hwritable) hseen hname
    rw [hwritable] at hclash
    exact Bool.noConfusion hclash.1

/-- A field that is not sent stays as it is in a fresh entity. -/
theorem loadCell_of_other (hapart : FieldsApart entity.fields) (hmem : cell ∈ entity.cells)
    (hother : cell.field.isWritable = false) :
    Entity.loadCell (Client.payload entity.writableFields) cell.field.fresh =
      .ok cell.field.fresh := by
  unfold Entity.loadCell Field.fresh
  simp only
  cases hseen : cell.field.isRelationship with
  | true => rfl
  | false =>
    rw [get?_payload, get?_writableFields_of_other hapart hmem hseen hother]
    rfl

/-- A field that is sent takes its JSON form, unless that is null. -/
theorem loadCell_of_writable (hapart : FieldsApart entity.fields) (hmem : cell ∈ entity.cells)
    (hwritable : cell.field.isWritable = true) :
    Entity.loadCell (Client.payload entity.writableFields) cell.field.fresh =
      if cell.value.toJson.isNull then .ok cell.field.fresh
      else cell.field.fresh.setRaw cell.value.toJson := by
  unfold Entity.loadCell Field.fresh
  simp only
  rw [isRelationship_of_isWritable hwritable, get?_payload,
    Entity.get?_writableFields hapart hmem hwritable]
  rfl

theorem loadCell_readBack (hapart : FieldsApart entity.fields) (hmem : cell ∈ entity.cells)
    (hproper : cell.value.IsProper) (hreadable : cell.unreadable? = none) :
    Entity.loadCell (Client.payload entity.writableFields) cell.field.fresh =
      .ok cell.readBack := by
  unfold Cell.readBack
  cases hwritable : cell.field.isWritable with
  | false =>
    rw [loadCell_of_other hapart hmem hwritable]
    rfl
  | true =>
    rw [Cell.unreadable?, if_pos hwritable, Option.map_eq_none_iff] at hreadable
    rw [loadCell_of_writable hapart hmem hwritable]
    cases hnull : cell.value.toJson.isNull with
    | true => rfl
    | false => exact Cell.setRaw_toJson hnull hreadable hproper

theorem loadCell_unreadable (hapart : FieldsApart entity.fields) (hmem : cell ∈ entity.cells)
    {name : String} {t : Calendar.Instant} (hunreadable : cell.unreadable? = some (name, t)) :
    Entity.loadCell (Client.payload entity.writableFields) cell.field.fresh =
      .error (.format name (.text t.text) .instant) := by
  unfold Cell.unreadable? at hunreadable
  cases hwritable : cell.field.isWritable with
  | false =>
    rw [hwritable] at hunreadable
    cases hunreadable
  | true =>
    rw [if_pos hwritable] at hunreadable
    obtain ⟨instant, hinstant, hpair⟩ := Option.map_eq_some_iff.mp hunreadable
    obtain ⟨rfl, rfl⟩ := Prod.mk.inj hpair
    obtain ⟨hvalue, hyear⟩ := Value.eq_instant_of_unreadable hinstant
    have hnull : cell.value.toJson.isNull = false := by
      rw [hvalue]
      rfl
    rw [loadCell_of_writable hapart hmem hwritable, hnull]
    exact Cell.setRaw_unreadable hvalue hyear

/-! ### All fields in order -/

variable {cells : List Cell}

theorem loadCells_cons_ok {payload : Members Json} {first back : Cell} {rest : List Cell}
    (hfirst : Entity.loadCell payload first = .ok back) :
    Entity.loadCells payload (first :: rest) =
      (Entity.loadCells payload rest).map fun cells => back :: cells := by
  rw [Entity.loadCells, hfirst]
  cases Entity.loadCells payload rest with
  | error failure => rfl
  | ok cells => rfl

/-- The first cell that cannot be read decides; without one all cells are read back. -/
theorem loadCells_payload (hapart : FieldsApart entity.fields)
    (hsub : ∀ cell ∈ cells, cell ∈ entity.cells)
    (hproper : ∀ cell ∈ cells, cell.value.IsProper) :
    Entity.loadCells (Client.payload entity.writableFields)
        (cells.map fun cell => cell.field.fresh) =
      match cells.findSome? Cell.unreadable? with
      | some (name, t) => .error (.format name (.text t.text) .instant)
      | none => .ok (cells.map Cell.readBack) := by
  induction cells with
  | nil => rfl
  | cons first rest ih =>
    obtain ⟨hfirst, hrest⟩ := List.forall_mem_cons.mp hsub
    obtain ⟨hproperFirst, hproperRest⟩ := List.forall_mem_cons.mp hproper
    rw [List.findSome?_cons, List.map_cons]
    cases hhead : first.unreadable? with
    | some found =>
      obtain ⟨name, t⟩ := found
      rw [Entity.loadCells, loadCell_unreadable hapart hfirst hhead]
      rfl
    | none =>
      have hload := loadCell_readBack hapart hfirst hproperFirst hhead
      rw [loadCells_cons_ok hload, ih hrest hproperRest]
      -- whatever became of the rest, the first cell stands before it
      cases rest.findSome? Cell.unreadable? with
      | some found => rfl
      | none => rfl

end loading

/-! ### An entity -/

/-- A field that may hold nothing holds nothing in a fresh entity. -/
def Field.StartsEmpty (field : Field) : Prop :=
  field.type.isOptional = true → (field.type.valueOf field.initial).isNull = true

instance (field : Field) : Decidable field.StartsEmpty :=
  inferInstanceAs (Decidable (_ → _))

namespace Cell

variable {cell : Cell}

theorem field_readBack (cell : Cell) : cell.readBack.field = cell.field := by
  unfold readBack
  split <;> rfl

theorem readBack_of_other (hother : cell.field.isWritable = false) :
    cell.readBack = cell.field.fresh := by
  rw [readBack, hother]
  rfl

theorem readBack_of_isLost (hlost : cell.value.isLost = true) :
    cell.readBack = cell.field.fresh := by
  rw [readBack, Value.isNull_toJson, hlost, Bool.or_true, Bool.not_true, Bool.and_false]
  rfl

/-- The value of a field that is sent comes back, if it is not a number that has no JSON form. -/
theorem value_readBack (hempty : cell.field.StartsEmpty) (hwritable : cell.field.isWritable = true)
    (hkept : cell.value.isLost = false) : cell.readBack.value = cell.value := by
  unfold readBack
  rw [hwritable, Value.isNull_toJson, hkept, Bool.or_false, Bool.true_and]
  cases hnull : cell.value.isNull with
  | false => rfl
  | true =>
    -- only an optional field holds nothing, and a fresh one holds nothing, too
    rcases cell.field.type.valueOf_cases cell.content with ⟨hoptional, -⟩ | ⟨plain, hvalue, -⟩
    · rw [Value.eq_null_of_isNull hnull]
      exact Value.eq_null_of_isNull (hempty hoptional)
    · rw [value, hvalue, FieldType.isNull_plainToValue] at hnull
      cases hnull

/-- If its type is flat, the field holds the same as before. -/
theorem readBack_eq_self (hempty : cell.field.StartsEmpty) (hflat : cell.field.type.isFlat = true)
    (hwritable : cell.field.isWritable = true) (hkept : cell.value.isLost = false) :
    cell.readBack = cell := by
  have hvalue := value_readBack hempty hwritable hkept
  unfold readBack at hvalue ⊢
  rw [hwritable, Value.isNull_toJson, hkept, Bool.or_false, Bool.true_and] at hvalue ⊢
  cases hnull : cell.value.isNull with
  | false => rfl
  | true =>
    rw [hnull] at hvalue
    have hfresh : cell.field.fresh.value.isNull = true := by
      rw [← hnull]
      exact congrArg Value.isNull hvalue
    exact congrArg (Cell.mk cell.field) (FieldType.eq_of_isNull_of_isFlat hflat hfresh hnull)

/-- It is equal to what was sent, since it is not the number that differs from itself. -/
theorem equal_self_of_kept (hkept : cell.value.isLost = false) :
    cell.value.equal cell.value = true := by
  rw [cell.equal_self, Value.isNotNumber_of_kept hkept]
  rfl

end Cell

/-- A fresh entity is loaded with a payload when it is materialized. -/
theorem materialize_of_loadCells {resolver : Resolver} {type : EntityType} {entry : Entry}
    (htype : resolver.blank type = .ok type.fresh) :
    materialize resolver type entry =
      (Entity.loadCells entry.payload (type.fields.map Field.fresh)).map fun cells =>
        Tracked.received ⟨type, cells⟩ entry.key := by
  have hload : type.fresh.load entry.payload =
      (Entity.loadCells entry.payload (type.fields.map Field.fresh)).map fun cells =>
        ⟨type, cells⟩ := rfl
  rw [materialize, htype]
  show (type.fresh.load entry.payload >>= fun entity =>
    .ok (Tracked.received entity entry.key)) = _
  rw [hload]
  cases Entity.loadCells entry.payload (type.fields.map Field.fresh) with
  | error failure => rfl
  | ok cells => rfl

/-- **What was written is read back.**  The payload that an entity is created with is materialized,
    where an optional field holds nothing in a fresh entity.

    If a field that is sent holds an instant in another year than 0 to 9999, the first one in the
    order of the table is what cannot be read.  Otherwise every field that is sent comes back with
    its value, which equals what was sent, and with its contents, unless its type can hold nothing in
    several ways; but a number that is not finite comes back as what a fresh entity holds, and so
    does every field that is not sent. -/
theorem read_back_of_written {resolver : Resolver} {type : EntityType} {entity : Entity}
    {entry : Entry} (htype : resolver.blank type = .ok type.fresh)
    (hfields : entity.fields = type.fields) (hapart : FieldsApart type.fields)
    (hempty : ∀ field ∈ type.fields, field.StartsEmpty)
    (hproper : ∀ cell ∈ entity.cells, cell.value.IsProper)
    (hpayload : entry.payload = Client.payload entity.writableFields) :
    (∀ name t, entity.cells.findSome? Cell.unreadable? = some (name, t) →
      materialize resolver type entry = .error (.format name (.text t.text) .instant)) ∧
    (entity.cells.findSome? Cell.unreadable? = none →
      materialize resolver type entry =
          .ok (Tracked.received ⟨type, entity.cells.map Cell.readBack⟩ entry.key) ∧
        ∀ cell ∈ entity.cells, cell.readBack.field = cell.field ∧
          (cell.field.isWritable = true → cell.value.isLost = false →
            cell.readBack.value = cell.value ∧ cell.value.equal cell.value = true ∧
              (cell.field.type.isFlat = true → cell.readBack = cell)) ∧
          (cell.field.isWritable = true → cell.value.isLost = true →
            cell.readBack = cell.field.fresh) ∧
          (cell.field.isWritable = false → cell.readBack = cell.field.fresh)) := by
  have hfresh : type.fields.map Field.fresh = entity.cells.map fun cell => cell.field.fresh := by
    rw [← hfields, Entity.fields, List.map_map]
    rfl
  rw [← hfields] at hapart hempty
  rw [materialize_of_loadCells htype, hfresh, hpayload]
  constructor
  · intro name t hunreadable
    rw [loadCells_payload hapart (fun cell hmem => hmem) hproper, hunreadable]
    rfl
  · intro hreadable
    rw [loadCells_payload hapart (fun cell hmem => hmem) hproper, hreadable]
    refine ⟨rfl, ?_⟩
    intro cell hmem
    have hstarts : cell.field.StartsEmpty := hempty cell.field (List.mem_map_of_mem hmem)
    refine ⟨cell.field_readBack, ?_, ?_, Cell.readBack_of_other⟩
    · intro hwritable hkept
      exact ⟨Cell.value_readBack hstarts hwritable hkept, Cell.equal_self_of_kept hkept,
        fun hflat => Cell.readBack_eq_self hstarts hflat hwritable hkept⟩
    · intro _ hlost
      exact Cell.readBack_of_isLost hlost

/-! ### A measurement -/

namespace Measurement

def label : Field := .writable "Label" "label" (.optional (.plain .text))

def ratio : Field := .writable "Ratio" "ratio" (.plain .float)

def taken : Field := .writable "Taken" "taken" (.optional (.plain .instant))

def checked : Field :=
  (Field.writable "Checked" "checked" (.optional (.plain .instant))).readOnly

def device : Field := (Field.writable "Device" "device" (.plain .text)).relationship

/-- A type with fields of each sort. -/
def measurement : EntityType :=
  ⟨"Measurement", "Measurement", [label, ratio, taken, checked, device]⟩

/-- The leap second at the end of 2016. -/
def leapSecond : Calendar.Instant :=
  ⟨1483228799, 1500000000⟩

/-- A measurement of an infinite ratio in a leap second, without a label. -/
def infinite : Entity where
  type := measurement
  cells := [⟨label, (none : Option String)⟩, ⟨ratio, Float.ofBits 0x7ff0000000000000⟩,
    ⟨taken, some leapSecond⟩, ⟨checked, some leapSecond⟩, ⟨device, "D1"⟩]

/-- The resolver that knows measurements. -/
def resolver : Resolver :=
  Resolver.ofCatalog [⟨"Measurement", "measurements", measurement⟩]

/-- The instant comes back; the ratio, and what is not sent, as in a fresh measurement. -/
theorem infinite_ratio_is_blank_again :
    resolver.blank measurement = .ok measurement.fresh ∧
      materialize resolver measurement (.ofPayload (Client.payload infinite.writableFields)) =
        .ok (Tracked.received ⟨measurement, infinite.cells.map Cell.readBack⟩ none) ∧
      (Cell.mk taken (some leapSecond)).readBack.value = .instant leapSecond ∧
      (Cell.mk taken (some leapSecond)).readBack = ⟨taken, some leapSecond⟩ ∧
      (Cell.mk ratio (Float.ofBits 0x7ff0000000000000)).readBack = ratio.fresh ∧
      (Cell.mk checked (some leapSecond)).readBack = checked.fresh := by
  have htype : resolver.blank measurement = .ok measurement.fresh := rfl
  have hfields : infinite.fields = measurement.fields := rfl
  have hreadable : infinite.cells.findSome? Cell.unreadable? = none := by decide +kernel
  have hapart : FieldsApart measurement.fields := fieldsApart_of_nodup (by decide)
  obtain ⟨-, hread⟩ := read_back_of_written htype hfields hapart (by decide) (by decide)
    (show (Entry.ofPayload (Client.payload infinite.writableFields)).payload = _ from rfl)
  obtain ⟨hmaterialize, hcells⟩ := hread hreadable
  obtain ⟨-, hsent, -, -⟩ := hcells ⟨taken, some leapSecond⟩ (by simp [infinite])
  obtain ⟨hvalue, -, hcontent⟩ := hsent rfl rfl
  refine ⟨htype, hmaterialize, hvalue, hcontent rfl, ?_, ?_⟩
  · obtain ⟨-, -, hlost, -⟩ := hcells ⟨ratio, Float.ofBits 0x7ff0000000000000⟩ (by simp [infinite])
    exact hlost rfl rfl
  · obtain ⟨-, -, -, hother⟩ := hcells ⟨checked, some leapSecond⟩ (by simp [infinite])
    exact hother rfl

end Measurement

end ResourceFeed
