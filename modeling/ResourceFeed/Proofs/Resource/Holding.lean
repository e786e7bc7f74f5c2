import ResourceFeed.Proofs.Resource.Materialized
import ResourceFeed.Resource.Accessor

/-! # What is coerced can be held

    Two tables say what a field takes: the wire form says how a raw value is
    coerced, and the type of the field says which values it holds.  They fit
    together.  Whatever a raw value that is not null is coerced to, each type
    over the wire form holds it.

    So only null is ever refused after it was coerced, by a field that must
    hold something.  Reading an entry leaves nulls out, and all its refusals
    are those of a coercion.

    The main statement is `coerced_values_are_held`.
-/

namespace ResourceFeed

/-- Null is held by the optional fields, and by no others. -/
theorem FieldType.isSome_ofValue?_null : ∀ type : FieldType,
    (type.ofValue? .null).isSome = type.isOptional
  | .plain wire => by cases wire <;> rfl
  | .optional _ => rfl

/-! ### Setting a field -/

namespace Accessor

variable {ε : Type} {accessor : Accessor ε} {accessors : List (Accessor ε)} {raw : Json}
  {payload : Members Json} {entity left : ε} {refusal : Refusal}

/-- A refused value leaves the variable.  It is refused where it is coerced; or it is null, and the
    field must hold something. -/
theorem setRaw_refused (hrefused : (accessor.setRaw raw).runOn entity = (.error refusal, left)) :
    left = entity ∧
      (refusal.step = .coercion ∧ coerce? accessor.field.type.wire raw = none ∨
        refusal.step = .storage ∧ raw.isNull = true ∧
          accessor.field.type.isOptional = false) := by
  rw [runOn_setRaw] at hrefused
  cases hvalue : coerce? accessor.field.type.wire raw with
  | none =>
    rw [hvalue] at hrefused
    cases hrefused
    exact ⟨rfl, .inl ⟨rfl, rfl⟩⟩
  | some value =>
    rw [hvalue] at hrefused
    cases hcontent : accessor.field.type.ofValue? value with
    | some content =>
      simp only [hcontent] at hrefused
      cases hrefused
    | none =>
      simp only [hcontent] at hrefused
      cases hrefused
      refine ⟨rfl, .inr ⟨rfl, ?_⟩⟩
      cases hraw : raw.isNull with
      | false =>
        -- anything else that is coerced would be held
        obtain ⟨content, hheld, -⟩ := FieldType.exists_content_of_coerce? hraw hvalue
        rw [hheld] at hcontent
        cases hcontent
      | true =>
        rw [FieldType.coerce?_of_isNull hraw] at hvalue
        cases hvalue
        rw [← FieldType.isSome_ofValue?_null, hcontent]
        exact ⟨rfl, rfl⟩

/-- Only null is refused after it was coerced. -/
theorem step_eq_storage_iff
    (hrefused : (accessor.setRaw raw).runOn entity = (.error refusal, left)) :
    refusal.step = .storage ↔ raw.isNull = true := by
  obtain ⟨-, ⟨hstep, hnone⟩ | ⟨hstep, hnull, -⟩⟩ := setRaw_refused hrefused
  · rw [hstep]
    refine iff_of_false RefusedAt.noConfusion fun hnull => ?_
    rw [FieldType.coerce?_of_isNull hnull] at hnone
    cases hnone
  · exact iff_of_true hstep hnull

/-! ### Loading a table -/

/-- What a payload holds for a field is refused only where it is coerced. -/
theorem load_refused (hrefused : (accessor.load payload).runOn entity = (.error refusal, left)) :
    refusal.step = .coercion := by
  unfold load at hrefused
  cases hrelationship : accessor.field.isRelationship with
  | true =>
    rw [hrelationship] at hrefused
    cases hrefused
  | false =>
    rw [hrelationship] at hrefused
    cases hraw : Members.get? accessor.field.name payload with
    | none =>
      rw [hraw] at hrefused
      cases hrefused
    | some raw =>
      simp only [hraw, Bool.false_eq_true, if_false] at hrefused
      cases hnull : raw.isNull with
      | true =>
        rw [if_pos hnull] at hrefused
        cases hrefused
      | false =>
        rw [if_neg (by simp [hnull])] at hrefused
        obtain ⟨-, ⟨hstep, -⟩ | ⟨-, hisNull, -⟩⟩ := setRaw_refused hrefused
        · exact hstep
        · rw [hnull] at hisNull
          cases hisNull

/-- The one refusal that stops the loading of a table is that of a coercion. -/
theorem loadAll_refused
    (hrefused : (loadAll payload accessors).runOn entity = (.error refusal, left)) :
    refusal.step = .coercion := by
  induction accessors generalizing entity with
  | nil => cases hrefused
  | cons accessor rest ih =>
    rw [loadAll, Setting.runOn_bind] at hrefused
    rcases hload : (accessor.load payload).runOn entity with ⟨outcome, between⟩
    rw [hload] at hrefused
    cases outcome with
    | error first =>
      cases hrefused
      exact load_refused hload
    | ok => exact ih hrefused

end Accessor

theorem Setting.told_eq_error {ε : Type} {result : Except Refusal Unit × ε} {failure : Failure}
    (htold : told result = .error failure) :
    ∃ refusal, result = (.error refusal, result.2) ∧ failure = refusal.failure := by
  obtain ⟨outcome, left⟩ := result
  cases outcome with
  | ok => cases htold
  | error refusal =>
    cases htold
    exact ⟨refusal, rfl, rfl⟩

/-- An entry that cannot be materialized as a registered type has a refused member. -/
theorem exists_refusal_of_materialize {resolver : Resolver} {type : EntityType} {entry : Entry}
    {blank : Entity} {failure : Failure} (hblank : resolver.blank type = .ok blank)
    (hfailed : materialize resolver type entry = .error failure) :
    ∃ refusal left, (Accessor.loadAll entry.payload blank.accessors).runOn blank =
        (.error refusal, left) ∧ failure = refusal.failure := by
  rw [materialize, hblank] at hfailed
  have hbehind : (blank.load entry.payload >>= fun entity =>
      .ok (Tracked.received entity entry.key)) = .error failure := hfailed
  rcases bind_eq_error.mp hbehind with hload | ⟨entity, -, hnothing⟩
  · rw [Entity.load_eq_told] at hload
    obtain ⟨refusal, hrefused, htold⟩ := Setting.told_eq_error hload
    exact ⟨refusal, _, hrefused, htold⟩
  · cases hnothing

/-- Setting the first chosen field is refused as it is in place. -/
theorem exists_refusal_of_set? {entity : Entity} {choose : Field → Bool} {raw : Json}
    {failure : Failure} (hfailed : entity.set? choose raw = some (.error failure)) :
    ∃ accessor ∈ entity.accessors, choose accessor.field = true ∧
      ∃ refusal, (accessor.setRaw raw).runOn entity = (.error refusal, entity) ∧
        failure = refusal.failure := by
  rw [Entity.set?_eq_told] at hfailed
  obtain ⟨accessor, hfound, htold⟩ := Option.map_eq_some_iff.mp hfailed
  obtain ⟨refusal, hrefused, hfailure⟩ := Setting.told_eq_error htold
  have hchosen : choose accessor.field = true :=
    List.find?_some (p := fun accessor : Accessor Entity => choose accessor.field) hfound
  obtain ⟨hleft, -⟩ := Accessor.setRaw_refused hrefused
  rw [hleft] at hrefused
  exact ⟨accessor, List.mem_of_find?_eq_some hfound, hchosen, refusal, hrefused, hfailure⟩

/-! ### Main statement -/

/-- **Coerced values are held.**  Whatever a raw value that is not null is coerced to, every type of
    fields over the wire form holds it, however often it is optional.

    So wherever a table is loaded from a payload, no field refuses a value after it was coerced; in
    particular an entry that cannot be materialized as the type that is registered has a member that
    cannot be coerced.

    A refused value leaves the variable as it was, also if it is null, which is the one value that is
    refused after it was coerced; and so an entity stays if its first chosen field cannot be set. -/
theorem coerced_values_are_held :
    (∀ (type : FieldType) (raw : Json) (value : Value), raw.isNull = false →
      coerce? type.wire raw = some value → ∃ content, type.ofValue? value = some content) ∧
    (∀ (ε : Type) (accessors : List (Accessor ε)) (payload : Members Json) (entity left : ε)
      (refusal : Refusal),
      (Accessor.loadAll payload accessors).runOn entity = (.error refusal, left) →
      refusal.step = .coercion) ∧
    (∀ (resolver : Resolver) (type : EntityType) (entry : Entry) (blank : Entity)
      (failure : Failure), resolver.blank type = .ok blank →
      materialize resolver type entry = .error failure →
      ∃ refusal left, (Accessor.loadAll entry.payload blank.accessors).runOn blank =
        (.error refusal, left) ∧ refusal.step = .coercion ∧ failure = refusal.failure) ∧
    (∀ (ε : Type) (accessor : Accessor ε) (raw : Json) (entity left : ε) (refusal : Refusal),
      (accessor.setRaw raw).runOn entity = (.error refusal, left) →
      left = entity ∧ (refusal.step = .storage ↔ raw.isNull = true)) ∧
    (∀ (entity : Entity) (choose : Field → Bool) (raw : Json) (failure : Failure),
      entity.set? choose raw = some (.error failure) →
      ∃ accessor ∈ entity.accessors, choose accessor.field = true ∧
        ∃ refusal, (accessor.setRaw raw).runOn entity = (.error refusal, entity) ∧
          failure = refusal.failure) := by
  refine ⟨fun type raw value hraw hvalue => ?_,
    fun ε accessors payload entity left refusal => Accessor.loadAll_refused,
    fun resolver type entry blank failure hblank hfailed => ?_,
    fun ε accessor raw entity left refusal hrefused =>
      ⟨(Accessor.setRaw_refused hrefused).1, Accessor.step_eq_storage_iff hrefused⟩,
    fun entity choose raw failure => exists_refusal_of_set?⟩
  · obtain ⟨content, hheld, -⟩ := FieldType.exists_content_of_coerce? hraw hvalue
    exact ⟨content, hheld⟩
  · obtain ⟨refusal, left, hrefused, hfailure⟩ := exists_refusal_of_materialize hblank hfailed
    exact ⟨refusal, left, hrefused, Accessor.loadAll_refused hrefused, hfailure⟩

namespace Measurement

/-- A field that may hold nothing in two ways takes a number; the garbled measurement is refused
    where its ratio is coerced; and another measurement stays when its ratio is set to null or to a
    truth value. -/
theorem garbled_is_refused_at_coercion :
    (∃ content, (FieldType.optional (.optional (.plain .int32))).ofValue? (.int 7) =
      some content) ∧
    (∃ refusal left, (Accessor.loadAll garbled.payload measurement.fresh.accessors).runOn
      measurement.fresh = (.error refusal, left) ∧ refusal.step = .coercion ∧
        refusal.failure = .format "Ratio" (.bool true) .float) ∧
    (∃ refusal, ((Entity.accessorAt 1 ratio).setRaw .null).runOn infinite =
      (.error refusal, infinite) ∧ refusal.step = .storage) ∧
    ∃ accessor ∈ infinite.accessors, (accessor.field.name == "Ratio") = true ∧
      ∃ refusal, (accessor.setRaw (.bool true)).runOn infinite = (.error refusal, infinite) := by
  obtain ⟨hheld, hload, hmaterialize, hset, hchosen⟩ := coerced_values_are_held
  refine ⟨?_, ?_, ?_, ?_⟩
  · exact hheld (.optional (.optional (.plain .int32))) (.integer 7) (.int 7) rfl rfl
  · have hblank : resolver.blank measurement = .ok measurement.fresh := rfl
    have hfailed : materialize resolver measurement garbled =
        .error (.format "Ratio" (.bool true) .float) := rfl
    obtain ⟨refusal, left, hrefused, -, hfailure⟩ :=
      hmaterialize resolver measurement garbled _ _ hblank hfailed
    exact ⟨refusal, left, hrefused, hload Entity _ _ _ _ _ hrefused, hfailure.symm⟩
  · have hrefused : ((Entity.accessorAt 1 ratio).setRaw .null).runOn infinite =
        (.error ⟨ratio, .null, .storage⟩, infinite) := rfl
    obtain ⟨-, hstorage⟩ := hset Entity (Entity.accessorAt 1 ratio) .null infinite _ _ hrefused
    exact ⟨_, hrefused, hstorage.mpr rfl⟩
  · have hfailed : infinite.set? (fun field => field.name == "Ratio") (.bool true) =
        some (.error (.format "Ratio" (.bool true) .float)) := rfl
    obtain ⟨accessor, hmem, hname, refusal, hrefused, -⟩ := hchosen infinite _ _ _ hfailed
    exact ⟨accessor, hmem, hname, refusal, hrefused⟩

end Measurement

end ResourceFeed
