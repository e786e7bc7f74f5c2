import ResourceFeed.Proofs.Client.Convergence
import ResourceFeed.Proofs.Client.Plans
import ResourceFeed.Proofs.Value.Equality

/-! # What was just synchronised

    An entity that was just read, created or updated has a snapshot of all its
    fields as they are now, so that nothing should have changed.  Whether a
    field has changed is found by comparing its value with the snapshot,
    though, and a floating-point number that is not a number differs from
    itself.  So the fields that have changed are those that hold one: all
    others are as the server has them.
-/

namespace ResourceFeed

/-- Whether a value is the floating-point number that is not a number. -/
def Value.isNotNumber : Value → Bool
  | .float value => value.isNaN
  | _ => false

/-- The contents of a field differ from themselves only if they are not a number. -/
theorem FieldType.equal_self_valueOf : ∀ (type : FieldType) (content : type.Content),
    (type.valueOf content).equal (type.valueOf content) = !(type.valueOf content).isNotNumber
  | .plain .text, (content : String) => beq_self_eq_true content
  | .plain .boolean, (content : Bool) => beq_self_eq_true content
  | .plain .int32, (content : Int32) => beq_self_eq_true content.toInt64
  | .plain .int64, (content : Int64) => beq_self_eq_true content
  | .plain .float, (content : Float) => float_beq_self content
  | .plain .instant, (content : Calendar.Instant) => beq_self_eq_true content
  | .optional _, none => rfl
  | .optional inner, some content => equal_self_valueOf inner content

theorem Cell.equal_self (cell : Cell) :
    cell.value.equal cell.value = !cell.value.isNotNumber :=
  cell.field.type.equal_self_valueOf cell.content

namespace Tracked

/-- An entity that was just synchronised: it was materialized from an entry, or a client has created
    or updated its resource, over a link of any kind. -/
inductive Synchronised : Tracked → Prop where
  | materialized {resolver : Resolver} {type : EntityType} {entry : Entry} {tracked : Tracked}
      (hmaterialized : materialize resolver type entry = .ok tracked) : Synchronised tracked
  | performed {σ : Type} [Peer σ] {client : Client} {operation : Operation}
      (hoperation : operation ≠ .delete) {before tracked : Tracked} {link left : Link σ}
      (hok : (client.perform operation).runOn before link = (.ok (), tracked, left)) :
      Synchronised tracked

/-- A persisted entity whose changed fields are those that do not hold a number. -/
structure Settled (tracked : Tracked) : Prop where
  persisted : tracked.lifecycle = .persisted
  changed : ∀ cell ∈ tracked.entity.cells, cell.field.isWritable = true →
    isChanged tracked.snapshot cell = cell.value.isNotNumber

/-! ### Synchronised entities are settled -/

section settled
variable {tracked : Tracked} {cell : Cell}

/-- A snapshot differs from the entity it was taken of where that differs from itself. -/
theorem isChanged_visibleFields {entity : Entity} (hapart : FieldsApart entity.fields)
    (hmem : cell ∈ entity.cells) (hwritable : cell.field.isWritable = true) :
    isChanged entity.visibleFields cell = cell.value.isNotNumber := by
  unfold isChanged
  rw [Entity.get?_visibleFields hapart hmem hwritable]
  simp only
  rw [cell.equal_self, Bool.not_not]

/-- Whatever does not hold a number has changed, since nothing is equal to it. -/
theorem isChanged_of_isNotNumber {snapshot : Record} (hnumber : cell.value.isNotNumber = true) :
    isChanged snapshot cell = true := by
  unfold isChanged
  cases Members.get? cell.field.name snapshot with
  | none => rfl
  | some previous =>
    simp only
    cases hequal : previous.equal cell.value with
    | false => rfl
    | true =>
      have hself := Value.equal_trans (Value.equal_symm hequal) hequal
      rw [cell.equal_self, hnumber] at hself
      cases hself

/-- After a snapshot was taken. -/
theorem settled_of_snapshot (hpersisted : tracked.lifecycle = .persisted)
    (hsnapshot : tracked.snapshot = tracked.entity.visibleFields)
    (hapart : FieldsApart tracked.entity.fields) : tracked.Settled where
  persisted := hpersisted
  changed := by
    intro cell hmem hwritable
    rw [hsnapshot, isChanged_visibleFields hapart hmem hwritable]

theorem isChanged_of_no_changes (hchanges : tracked.changes.isEmpty = true)
    (hapart : FieldsApart tracked.entity.fields) (hmem : cell ∈ tracked.entity.cells)
    (hwritable : cell.field.isWritable = true) : isChanged tracked.snapshot cell = false := by
  have hget := Entity.get?_changes hapart hmem hwritable
  rw [List.isEmpty_iff.mp hchanges] at hget
  cases hchanged : isChanged tracked.snapshot cell with
  | false => rfl
  | true =>
    rw [hchanged] at hget
    cases hget

/-- And if there was nothing to send. -/
theorem settled_of_no_changes (hpersisted : tracked.lifecycle = .persisted)
    (hchanges : tracked.changes.isEmpty = true) (hapart : FieldsApart tracked.entity.fields) :
    tracked.Settled where
  persisted := hpersisted
  changed := by
    intro cell hmem hwritable
    have hsame := isChanged_of_no_changes hchanges hapart hmem hwritable
    cases hnumber : cell.value.isNotNumber with
    | false => exact hsame
    | true =>
      rw [isChanged_of_isNotNumber hnumber] at hsame
      cases hsame

/-- An operation that succeeds takes a snapshot, or has nothing to send. -/
theorem persisted_of_effect {σ : Type} {state next : Upkeep σ}
    (heffect : Upkeep.Effect state (.ok ()) next) :
    (∃ key, next.tracked = state.tracked.persist key) ∨
      (next.tracked.lifecycle = .persisted ∧ next.tracked.changes.isEmpty = true) := by
  cases heffect with
  | unchanged hpersisted hchanges => exact .inr ⟨hpersisted, hchanges⟩
  | created hnew => exact .inl ⟨_, rfl⟩
  | updated hpersisted => exact .inl ⟨_, rfl⟩

theorem Synchronised.settled (hsynchronised : tracked.Synchronised)
    (hapart : FieldsApart tracked.entity.fields) : tracked.Settled := by
  cases hsynchronised with
  | materialized hmaterialized =>
    obtain ⟨blank, entity, -, -, rfl⟩ := materialize_eq_ok.mp hmaterialized
    exact settled_of_snapshot rfl rfl hapart
  | @performed σ _ client operation hoperation before tracked link left hok =>
    have heffect := Upkeep.effect_of_perform client ⟨before, link, fun _ => none⟩ hoperation
    have hresult : Upkeep.result client ⟨before, link, fun _ => none⟩ operation =
        (.ok (), tracked, left) := hok
    rw [Upkeep.step, Upkeep.after, hresult] at heffect
    rcases persisted_of_effect heffect with ⟨key, rfl⟩ | ⟨hpersisted, hchanges⟩
    · exact settled_of_snapshot rfl rfl hapart
    · exact settled_of_no_changes hpersisted hchanges hapart

end settled

/-! ### The changes of a settled entity -/

/-- The writable fields that hold the number that is not one. -/
def notNumbers (tracked : Tracked) : Record :=
  Members.ofList ((tracked.entity.cells.filter fun cell =>
    cell.field.isWritable && cell.value.isNotNumber).map Cell.named)

/-- No writable field holds the number that is not one. -/
def HoldsNumbers (tracked : Tracked) : Prop :=
  ∀ cell ∈ tracked.entity.cells, cell.field.isWritable = true → cell.value.isNotNumber = false

section changes
variable {tracked : Tracked}

theorem Settled.changes_eq (hsettled : tracked.Settled) : tracked.changes = tracked.notNumbers := by
  have hsame : ∀ cell ∈ tracked.entity.cells,
      (cell.field.isWritable && isChanged tracked.snapshot cell) =
        (cell.field.isWritable && cell.value.isNotNumber) := by
    intro cell hmem
    cases hwritable : cell.field.isWritable with
    | false => rfl
    | true => rw [hsettled.changed cell hmem hwritable]
  rw [changes, notNumbers, List.filter_congr hsame]

theorem notNumbers_of_holdsNumbers (hnumbers : tracked.HoldsNumbers) : tracked.notNumbers = [] := by
  have hnone : (tracked.entity.cells.filter fun cell =>
      cell.field.isWritable && cell.value.isNotNumber) = [] := by
    rw [List.filter_eq_nil_iff]
    intro cell hmem hchosen
    obtain ⟨hwritable, hnumber⟩ := Bool.and_eq_true_iff.mp hchosen
    rw [hnumbers cell hmem hwritable] at hnumber
    cases hnumber
  rw [notNumbers, hnone]
  rfl

theorem Settled.no_changes_iff (hsettled : tracked.Settled)
    (hapart : FieldsApart tracked.entity.fields) :
    tracked.changes.isEmpty = true ↔ tracked.HoldsNumbers := by
  constructor
  · intro hchanges cell hmem hwritable
    rw [← hsettled.changed cell hmem hwritable]
    exact isChanged_of_no_changes hchanges hapart hmem hwritable
  · intro hnumbers
    rw [hsettled.changes_eq, notNumbers_of_holdsNumbers hnumbers]
    rfl

theorem state_of_changes (hpersisted : tracked.lifecycle = .persisted) :
    tracked.state = if tracked.changes.isEmpty then .unmodified else .modified := by
  unfold state
  rw [hpersisted]

/-- Saving an unmodified entity does nothing. -/
theorem save_of_unmodified {σ : Type} [Peer σ] (client : Client) (link : Link σ)
    (hstate : tracked.state = .unmodified) :
    (client.perform .save).runOn tracked link = (.ok (), tracked, link) := by
  have hplan : client.plan .save tracked = .nothing tracked := by
    simp only [Client.plan, Client.savePlan, hstate]
  rw [client.runOn_perform, hplan]
  rfl

/-- Saving a modified entity that has an address sends its changes. -/
theorem plan_of_modified {client : Client} {identity : Identity} {url : String}
    (hstate : tracked.state = .modified) (hchanges : tracked.changes.isEmpty = false)
    (hknown : tracked.identity? = some identity)
    (haddress : client.site.singleUrl identity.kind identity.id = .ok url) :
    client.plan .save tracked = .send (Client.updateTask tracked identity url) := by
  simp [Client.plan, Client.savePlan, Client.updatePlan, Client.knownPlan, Client.knownIdentity,
    Plan.ofExcept, hstate, hchanges, hknown, haddress]

/-- **What was just synchronised is unmodified, but for what is not a number.**  If all writable
    fields have names of their own, the changes of an entity that was just materialized, created or
    updated are the writable fields that hold the number that is not one.

    If there are none the entity is unmodified, and saving it does nothing.  Otherwise it is
    modified, and saving it sends these fields if it has an address. -/
theorem changes_of_synchronised (hsynchronised : tracked.Synchronised)
    (hapart : FieldsApart tracked.entity.fields) :
    tracked.changes = tracked.notNumbers ∧
      (tracked.HoldsNumbers → tracked.state = .unmodified ∧ tracked.changes = [] ∧
        ∀ {σ : Type} [Peer σ] (client : Client) (link : Link σ),
          (client.perform .save).runOn tracked link = (.ok (), tracked, link)) ∧
      (¬ tracked.HoldsNumbers → tracked.state = .modified ∧
        ∀ {σ : Type} [Peer σ] (client : Client) (link : Link σ) (identity : Identity)
          (url : String), tracked.identity? = some identity →
          client.site.singleUrl identity.kind identity.id = .ok url →
          ((client.perform .save).runOn tracked link).2.2.sent =
            link.sent ++ [(Client.updateTask tracked identity url).request link.versions]) := by
  have hsettled := hsynchronised.settled hapart
  have hstate := state_of_changes hsettled.persisted
  refine ⟨hsettled.changes_eq, ?_, ?_⟩
  · intro hnumbers
    have hchanges := (hsettled.no_changes_iff hapart).mpr hnumbers
    rw [if_pos hchanges] at hstate
    refine ⟨hstate, List.isEmpty_iff.mp hchanges, ?_⟩
    intro σ _ client link
    exact save_of_unmodified client link hstate
  · intro hnumbers
    have hchanges : tracked.changes.isEmpty = false :=
      Bool.eq_false_iff.mpr fun hempty => hnumbers ((hsettled.no_changes_iff hapart).mp hempty)
    rw [hchanges] at hstate
    refine ⟨hstate, ?_⟩
    intro σ _ client link identity url hknown haddress
    rw [client.runOn_perform, plan_of_modified hstate hchanges hknown haddress,
      InPlace.link_written, Plan.sent_runOn]
    rfl

end changes

/-! ### The revenue of an account -/

namespace Revenue

open CommandLine (account)
open Upkeep.Busy (Server client)

/-- An account with a revenue, as the server sends it. -/
def earning (revenue : Json) : Entry :=
  ⟨some "A1", none, none, [("AccountName", .text "Acme"), ("Revenue", revenue)]⟩

/-- The account as it is read. -/
def acme (revenue : Float) : Tracked :=
  let contents (_ : Nat) (field : Field) : field.type.Content :=
    match field.type with
    | .plain .text => "Acme"
    | .optional (.plain .float) => some revenue
    | type => type.blank
  Tracked.received (account.fresh.rewritten contents) (some "A1")

/-- A link to a server that accepts everything. -/
def link : Link Server :=
  ⟨.empty none, ⟨0⟩, [], []⟩

/-- An account with a revenue is not saved again. -/
theorem acme_is_unmodified :
    materialize client.resolver account (earning (.float 2.5)) = .ok (acme 2.5) ∧
      FieldsApart (acme 2.5).entity.fields ∧ (acme 2.5).HoldsNumbers ∧
      (acme 2.5).state = .unmodified ∧
      (client.perform .save).runOn (acme 2.5) link = (.ok (), acme 2.5, link) := by
  have hread : materialize client.resolver account (earning (.float 2.5)) = .ok (acme 2.5) := rfl
  have hapart : FieldsApart (acme 2.5).entity.fields := fieldsApart_of_nodup (by decide)
  have hnumbers : (acme 2.5).HoldsNumbers := by
    unfold HoldsNumbers
    decide +kernel
  obtain ⟨-, hunmodified, -⟩ := changes_of_synchronised (.materialized hread) hapart
  obtain ⟨hstate, -, hsave⟩ := hunmodified hnumbers
  exact ⟨hread, hapart, hnumbers, hstate, hsave client link⟩

/-- The number that is not one. -/
def nan : Float :=
  Float.ofBits 0x7ff8000000000000

/-- An account whose revenue is not a number is modified as soon as it is read, and saving it sends
    the revenue. -/
theorem unknown_revenue_is_modified :
    materialize client.resolver account (earning (.text "NaN")) = .ok (acme nan) ∧
      FieldsApart (acme nan).entity.fields ∧ (acme nan).state = .modified ∧
      (acme nan).changes.map Prod.fst = ["Revenue"] ∧
      ((client.perform .save).runOn (acme nan) link).2.2.sent.map Request.method = [.put] := by
  refine ⟨rfl, by decide, rfl, rfl, ?_⟩
  rfl

end Revenue

end Tracked
end ResourceFeed
