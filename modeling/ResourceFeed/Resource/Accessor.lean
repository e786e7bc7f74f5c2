import ResourceFeed.Resource.Entity

/-! # Fields in place

    A caller keeps an entity in a variable and sets its fields there.  A raw
    value is first coerced to the wire form of the field, and what comes of it
    is then stored, if the field can hold that.  Either step may *refuse* the
    value; a caller is told the same failure in both cases.

    A field is reached through an *accessor*, whatever the variable is like.
    Loading goes through the accessors of a table one after the other and
    stops at the first refusal; what was stored by then is still there.

    `Entity.set?` and `Entity.load` do the same for a caller who wants the
    entity as a result.  They keep a row of cells, so that no field is in the
    way of another one.  For a variable of a caller this is a law of its
    accessors, and where they keep it, the two forms agree.
-/

namespace ResourceFeed

/-- Where a raw value is refused. -/
inductive RefusedAt where
  /-- It cannot be coerced to the wire form of the field. -/
  | coercion
  /-- It is coerced, but the field cannot hold what comes of it. -/
  | storage
  deriving DecidableEq, Repr

/-- A raw value that a field refuses. -/
structure Refusal where
  field : Field
  raw : Json
  step : RefusedAt

/-- What a caller is told of a refusal. -/
def Refusal.failure (refusal : Refusal) : Failure :=
  .format refusal.field.name refusal.raw refusal.field.type.wire

/-! ## Work on a variable -/

/-- Work on a variable, which a refusal stops. -/
abbrev Setting (ε α : Type) := ExceptT Refusal (StateM ε) α

namespace Setting

variable {ε α β : Type}

/-- Runs the work on a variable: the outcome, and what is left there. -/
def runOn (setting : Setting ε α) (entity : ε) : Except Refusal α × ε :=
  (ExceptT.run setting).run entity

/-- What work on a variable comes to for a caller who wants the entity as a result. -/
def told : Except Refusal Unit × ε → Except Failure ε
  | (.ok (), entity) => .ok entity
  | (.error refusal, _) => .error refusal.failure

/-- Two pieces of work in turn: the second one finds the variable as the first one leaves it,
    unless that is stopped. -/
theorem runOn_bind (setting : Setting ε α) (next : α → Setting ε β) (entity : ε) :
    (setting >>= next).runOn entity =
      match setting.runOn entity with
      | (.ok value, entity) => (next value).runOn entity
      | (.error refusal, entity) => (.error refusal, entity) := by
  unfold runOn
  rw [ExceptT.run_bind, StateT.run_bind]
  rcases (ExceptT.run setting).run entity with ⟨outcome, left⟩
  cases outcome <;> rfl

/-- What two pieces of work in turn come to. -/
theorem told_bind (setting next : Setting ε Unit) (entity : ε) :
    told ((setting >>= fun _ => next).runOn entity) =
      told (setting.runOn entity) >>= fun entity => told (next.runOn entity) := by
  rw [runOn_bind]
  rcases setting.runOn entity with ⟨outcome, left⟩
  cases outcome <;> rfl

end Setting

/-! ## Accessors -/

/-- A field, and how its contents are written in a variable. -/
structure Accessor (ε : Type) where
  field : Field
  write : field.type.Content → ε → ε

namespace Accessor

variable {ε : Type}

/-- Stores a value if the field can hold it, and tells whether it can. -/
def store (accessor : Accessor ε) (value : Value) : StateM ε Bool := do
  match accessor.field.type.ofValue? value with
  | some content =>
    modify (accessor.write content)
    return true
  | none => return false

/-- Coerces a raw value and stores it. -/
def setRaw (accessor : Accessor ε) (raw : Json) : Setting ε Unit := do
  match coerce? accessor.field.type.wire raw with
  | none => throw ⟨accessor.field, raw, .coercion⟩
  | some value =>
    if ← accessor.store value then return ()
    else throw ⟨accessor.field, raw, .storage⟩

/-- Sets the field to what a payload holds for it: nothing for a relationship, an absent member or
    `null`. -/
def load (payload : Members Json) (accessor : Accessor ε) : Setting ε Unit :=
  if accessor.field.isRelationship then pure ()
  else match Members.get? accessor.field.name payload with
    | none => pure ()
    | some raw => if raw.isNull then pure () else accessor.setRaw raw

/-- Sets the fields of a table to what a payload holds for them, in order. -/
def loadAll (payload : Members Json) : List (Accessor ε) → Setting ε Unit
  | [] => pure ()
  | accessor :: rest => do
    accessor.load payload
    loadAll payload rest

/-- What setting a field comes to, and what it leaves. -/
theorem runOn_setRaw (accessor : Accessor ε) (raw : Json) (entity : ε) :
    (accessor.setRaw raw).runOn entity =
      match coerce? accessor.field.type.wire raw with
      | none => (.error ⟨accessor.field, raw, .coercion⟩, entity)
      | some value =>
        match accessor.field.type.ofValue? value with
        | none => (.error ⟨accessor.field, raw, .storage⟩, entity)
        | some content => (.ok (), accessor.write content entity) := by
  unfold setRaw
  cases coerce? accessor.field.type.wire raw with
  | none => rfl
  | some value =>
    simp only [store]
    cases accessor.field.type.ofValue? value with
    | none => rfl
    | some content => rfl

end Accessor

namespace Entity

/-- The accessor of a field that is kept in the cell at a place. -/
def accessorAt (place : Nat) (field : Field) : Accessor Entity where
  field := field
  write content entity := { entity with cells := entity.cells.set place ⟨field, content⟩ }

@[simp] theorem field_accessorAt (place : Nat) (field : Field) :
    (accessorAt place field).field = field := rfl

/-- The accessors of the fields of a table that are kept in the cells from a place on. -/
def accessorsFrom (place : Nat) : List Field → List (Accessor Entity)
  | [] => []
  | field :: rest => accessorAt place field :: accessorsFrom (place + 1) rest

/-- The accessors of all fields of an entity, in the order of the table. -/
def accessors (entity : Entity) : List (Accessor Entity) :=
  accessorsFrom 0 (entity.cells.map Cell.field)

end Entity

/-! ## The two forms agree -/

namespace Accessor

variable {ε : Type} {accessors : List (Accessor ε)} {view : ε → Entity}

/-- The law of the accessors of a table, for a variable that is viewed as an entity: each of them
    writes the cell at its place, and nothing else. -/
def Lawful (accessors : List (Accessor ε)) (view : ε → Entity) : Prop :=
  ∀ (place : Nat) (accessor : Accessor ε), accessors[place]? = some accessor →
    ∀ (content : accessor.field.type.Content) (entity : ε),
      view (accessor.write content entity) =
        (Entity.accessorAt place accessor.field).write content (view entity)

/-- So the accessors are independent of each other: it does not matter which of two writes first. -/
theorem Lawful.write_comm (hlawful : Lawful accessors view) {place other : Nat}
    (hne : place ≠ other) {first second : Accessor ε} (hfirst : accessors[place]? = some first)
    (hsecond : accessors[other]? = some second) (content : first.field.type.Content)
    (content' : second.field.type.Content) (entity : ε) :
    view (second.write content' (first.write content entity)) =
      view (first.write content (second.write content' entity)) := by
  rw [hlawful other second hsecond, hlawful place first hfirst, hlawful place first hfirst,
    hlawful other second hsecond]
  exact congrArg (Entity.mk _) (List.set_comm _ _ hne)

/-- Two outcomes with equal images are failures alike, or both succeed. -/
theorem outcomes_of_map_eq {α β γ : Type} {first : Except Failure α} {second : Except Failure β}
    {f : α → γ} {g : β → γ} (hmap : first.map f = second.map g) :
    (∃ failure, first = .error failure ∧ second = .error failure) ∨
      ∃ a b, first = .ok a ∧ second = .ok b ∧ f a = g b := by
  cases first with
  | error failure =>
    cases second with
    | error _ => exact .inl ⟨failure, rfl, congrArg _ (Except.error.inj hmap.symm)⟩
    | ok _ => cases hmap
  | ok a =>
    cases second with
    | error _ => cases hmap
    | ok b => exact .inr ⟨a, b, rfl, rfl, Except.ok.inj hmap⟩

theorem getElem?_behind {α β : Type} {done : List β} {front : List α}
    (hlength : done.length = front.length) (item : α) (back : List α) :
    (front ++ item :: back)[done.length]? = some item := by
  rw [hlength, List.getElem?_append_right (Nat.le_refl _), Nat.sub_self]
  rfl

section agreement
open Setting (told)
variable {type : EntityType} {payload : Members Json} {raw : Json} {accessor : Accessor ε}
  {done rest : List Cell} {entity : ε}

/-- Setting a field writes to its cell. -/
theorem Lawful.told_setRaw (hlawful : Lawful accessors view)
    (haccessor : accessors[done.length]? = some accessor) (content : accessor.field.type.Content)
    (hview : view entity = ⟨type, done ++ ⟨accessor.field, content⟩ :: rest⟩) :
    (told ((accessor.setRaw raw).runOn entity)).map view =
      (Cell.setRaw ⟨accessor.field, content⟩ raw).map fun cell => ⟨type, done ++ cell :: rest⟩ := by
  rw [runOn_setRaw, Cell.setRaw]
  cases coerce? accessor.field.type.wire raw with
  | none => rfl
  | some value =>
    simp only [Option.bind_some]
    cases accessor.field.type.ofValue? value with
    | none => rfl
    | some written =>
      -- the law says what the write shows as, and the cell is the one behind those that are done
      show Except.ok (view (accessor.write written entity)) = _
      rw [hlawful _ _ haccessor, hview]
      simp only [Entity.accessorAt, List.set_append_right _ _ (Nat.le_refl _), Nat.sub_self,
        List.set_cons_zero]
      rfl

/-- Loading a field writes to its cell. -/
theorem Lawful.told_load (hlawful : Lawful accessors view)
    (haccessor : accessors[done.length]? = some accessor) (content : accessor.field.type.Content)
    (hview : view entity = ⟨type, done ++ ⟨accessor.field, content⟩ :: rest⟩) :
    (told ((accessor.load payload).runOn entity)).map view =
      (Entity.loadCell payload ⟨accessor.field, content⟩).map fun cell =>
        ⟨type, done ++ cell :: rest⟩ := by
  have hkept : (told ((pure () : Setting ε Unit).runOn entity)).map view =
      .ok ⟨type, done ++ ⟨accessor.field, content⟩ :: rest⟩ := congrArg Except.ok hview
  rw [load, Entity.loadCell]
  cases accessor.field.isRelationship with
  | true => exact hkept
  | false =>
    cases Members.get? accessor.field.name payload with
    | none => exact hkept
    | some raw =>
      cases hnull : raw.isNull with
      | true =>
        simp only [hnull, if_true]
        exact hkept
      | false =>
        simp only [hnull, Bool.false_eq_true, if_false]
        exact hlawful.told_setRaw haccessor content hview

/-- Loading the fields behind some others that are loaded already. -/
theorem Lawful.told_loadAll {front back : List (Accessor ε)}
    (hlawful : Lawful (front ++ back) view) (hdone : done.length = front.length)
    (hrest : rest.map Cell.field = back.map Accessor.field)
    (hview : view entity = ⟨type, done ++ rest⟩) :
    (told ((loadAll payload back).runOn entity)).map view =
      (Entity.loadCells payload rest).map fun cells => ⟨type, done ++ cells⟩ := by
  -- on the accessors that are left; those in front have written their cells already
  induction back generalizing front done rest entity with
  | nil =>
    cases List.map_eq_nil_iff.mp hrest
    exact congrArg Except.ok hview
  | cons accessor back ih =>
    obtain ⟨⟨field, content⟩, rest, rfl, hfield, htail⟩ := List.map_eq_cons_iff.mp hrest
    cases hfield
    have haccessor := getElem?_behind hdone accessor back
    have hload : (told ((accessor.load payload).runOn entity)).map view =
        (Entity.loadCell payload ⟨accessor.field, content⟩).map fun cell =>
          ⟨type, done ++ cell :: rest⟩ := hlawful.told_load haccessor content hview
    rw [loadAll, Setting.told_bind, Entity.loadCells]
    rcases outcomes_of_map_eq hload with
      ⟨failure, htold, hcell⟩ | ⟨loaded, cell, htold, hcell, hloaded⟩
    · rw [htold, hcell]
      rfl
    · -- the cell that was just loaded is one of those that are done
      have hdone : (done ++ [cell]).length = (front ++ [accessor]).length := by simp [hdone]
      have hview : view loaded = ⟨type, (done ++ [cell]) ++ rest⟩ := by
        rw [List.append_assoc]
        exact hloaded
      rw [htold, hcell]
      refine (ih (by rw [List.append_assoc]; exact hlawful) hdone htail hview).trans ?_
      cases Entity.loadCells payload rest with
      | error failure => rfl
      | ok cells => simp [Except.map, bind, Except.bind, pure, Except.pure]

/-- Setting the first chosen field behind some others that are not chosen. -/
theorem Lawful.told_setFirst (choose : Field → Bool) {front back : List (Accessor ε)}
    (hlawful : Lawful (front ++ back) view) (hdone : done.length = front.length)
    (hrest : rest.map Cell.field = back.map Accessor.field)
    (hview : view entity = ⟨type, done ++ rest⟩) :
    ((back.find? fun accessor => choose accessor.field).map fun accessor =>
        (told ((accessor.setRaw raw).runOn entity)).map view) =
      (setFirst? choose raw rest).map fun outcome =>
        outcome.map fun cells => ⟨type, done ++ cells⟩ := by
  -- on the accessors that are left; none of those in front was chosen
  induction back generalizing front done rest with
  | nil =>
    cases List.map_eq_nil_iff.mp hrest
    rfl
  | cons accessor back ih =>
    obtain ⟨⟨field, content⟩, rest, rfl, hfield, htail⟩ := List.map_eq_cons_iff.mp hrest
    cases hfield
    have haccessor := getElem?_behind hdone accessor back
    rw [List.find?_cons, setFirst?]
    cases choose accessor.field with
    | true =>
      simp only [Option.map_some, if_true, hlawful.told_setRaw haccessor content hview]
      cases Cell.setRaw ⟨accessor.field, content⟩ raw <;> rfl
    | false =>
      have hdone : (done ++ [Cell.mk accessor.field content]).length =
          (front ++ [accessor]).length := by simp [hdone]
      refine (ih (by rw [List.append_assoc]; exact hlawful) hdone htail
        (by rw [List.append_assoc]; exact hview)).trans ?_
      rw [if_neg Bool.false_ne_true, Option.map_map]
      congr 1
      funext outcome
      cases outcome <;> simp [Except.map]

/-- Loading a variable loads the entity that it is viewed as. -/
theorem Lawful.load_view (hlawful : Lawful accessors view)
    (hfields : (view entity).cells.map Cell.field = accessors.map Accessor.field) :
    (view entity).load payload =
      (told ((loadAll payload accessors).runOn entity)).map view := by
  have hfront : Lawful ([] ++ accessors) view := hlawful
  have hcells : view entity = ⟨(view entity).type, [] ++ (view entity).cells⟩ := rfl
  exact (hfront.told_loadAll rfl hfields hcells).symm

/-- Setting the first chosen field of a variable sets that of the entity that it is viewed as. -/
theorem Lawful.set?_view (choose : Field → Bool) (hlawful : Lawful accessors view)
    (hfields : (view entity).cells.map Cell.field = accessors.map Accessor.field) :
    (view entity).set? choose raw =
      (accessors.find? fun accessor => choose accessor.field).map fun accessor =>
        (told ((accessor.setRaw raw).runOn entity)).map view := by
  have hfront : Lawful ([] ++ accessors) view := hlawful
  have hcells : view entity = ⟨(view entity).type, [] ++ (view entity).cells⟩ := rfl
  exact (hfront.told_setFirst choose rfl hfields hcells).symm

end agreement

/-- A pair is viewed as an entity with its two components in the cells. -/
theorem lawful_pair (first second : Field) (type : EntityType) :
    Lawful [⟨first, fun content pair => (content, pair.2)⟩,
        ⟨second, fun content pair => (pair.1, content)⟩]
      (fun pair : first.type.Content × second.type.Content =>
        ⟨type, [⟨first, pair.1⟩, ⟨second, pair.2⟩]⟩) := by
  intro place accessor haccessor content pair
  match place with
  | 0 | 1 =>
    cases haccessor
    rfl
  | _ + 2 => cases haccessor

end Accessor

namespace Entity

open Setting (told)

theorem getElem?_accessorsFrom (start place : Nat) (fields : List Field) :
    (accessorsFrom start fields)[place]? = fields[place]?.map (accessorAt (start + place)) := by
  induction fields generalizing start place with
  | nil => rfl
  | cons field rest ih =>
    cases place with
    | zero => rfl
    | succ place =>
      rw [accessorsFrom, List.getElem?_cons_succ, List.getElem?_cons_succ, ih, Nat.add_assoc,
        Nat.add_comm 1]

theorem map_field_accessorsFrom (start : Nat) (fields : List Field) :
    (accessorsFrom start fields).map Accessor.field = fields := by
  induction fields generalizing start with
  | nil => rfl
  | cons field rest ih => rw [accessorsFrom, List.map_cons, ih, field_accessorAt]

/-- An entity is viewed as itself. -/
theorem lawful_accessors (entity : Entity) : Accessor.Lawful entity.accessors id := by
  intro place accessor haccessor content written
  rw [accessors, getElem?_accessorsFrom, Nat.zero_add] at haccessor
  obtain ⟨field, -, rfl⟩ := Option.map_eq_some_iff.mp haccessor
  rfl

/-- Loading an entity. -/
theorem load_eq_told (entity : Entity) (payload : Members Json) :
    entity.load payload = told ((Accessor.loadAll payload entity.accessors).runOn entity) := by
  have hload : entity.load payload =
      (told ((Accessor.loadAll payload entity.accessors).runOn entity)).map id :=
    (lawful_accessors entity).load_view (map_field_accessorsFrom 0 _).symm
  rw [Except.map_id] at hload
  exact hload

/-- Setting the first field that is chosen. -/
theorem set?_eq_told (entity : Entity) (choose : Field → Bool) (raw : Json) :
    entity.set? choose raw =
      (entity.accessors.find? fun accessor => choose accessor.field).map fun accessor =>
        told ((accessor.setRaw raw).runOn entity) := by
  have hset : entity.set? choose raw =
      (entity.accessors.find? fun accessor => choose accessor.field).map fun accessor =>
        (told ((accessor.setRaw raw).runOn entity)).map id :=
    (lawful_accessors entity).set?_view choose (map_field_accessorsFrom 0 _).symm
  rw [Except.map_id] at hset
  exact hset

end Entity

end ResourceFeed
