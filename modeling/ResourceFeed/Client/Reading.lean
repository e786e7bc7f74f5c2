import ResourceFeed.Client.Exchange
import ResourceFeed.Feed.Entry
import ResourceFeed.Query.Evaluate
import ResourceFeed.Resource.Catalog
import ResourceFeed.Resource.Tracked
import ResourceFeed.Value.Shape

/-! # Reading entries

    An entry is *materialized* as an entity of the type registered under its
    kind: its payload is read field by field in the order of the table, its
    key becomes the key of the entity, and its version is remembered under
    the identity of the entity.  Nothing is remembered if the reading fails.

    A *conversion* makes an item of an entry: the entity itself, the value of
    a selector for it, or that value in a shape of the caller.
-/

namespace ResourceFeed

/-- The entity of an entry, as the server has it. -/
def materialize (resolver : Resolver) (type : EntityType) (entry : Entry) :
    Except Failure Tracked := do
  let entity ← resolver.blank type
  let entity ← entity.load entry.payload
  return Tracked.received entity entry.key

/-- What it takes to read an entity, and what then is read. -/
theorem materialize_eq_ok {resolver : Resolver} {type : EntityType} {entry : Entry}
    {tracked : Tracked} :
    materialize resolver type entry = .ok tracked ↔
      ∃ blank entity, resolver.blank type = .ok blank ∧ blank.load entry.payload = .ok entity ∧
        tracked = Tracked.received entity entry.key := by
  rw [materialize, bind_eq_ok]
  constructor
  · rintro ⟨blank, hblank, h⟩
    obtain ⟨entity, hload, htracked⟩ := bind_eq_ok.mp h
    exact ⟨blank, entity, hblank, hload, (Except.ok.inj htracked).symm⟩
  · rintro ⟨blank, entity, hblank, hload, rfl⟩
    exact ⟨blank, hblank, bind_eq_ok.mpr ⟨entity, hload, rfl⟩⟩

/-- The versions after an entity was materialized from an entry. -/
def rememberVersion (versions : VersionStore) (tracked : Tracked) (entry : Entry) :
    VersionStore :=
  match tracked.identity?, entry.version with
  | some identity, some version => versions.insert identity version
  | _, _ => versions

/-- Makes an item of an entry and may remember a version. -/
abbrev Conversion (α : Type) := Entry → VersionStore → Run α × VersionStore

namespace Conversion

/-- The entity of an entry. -/
def entity (resolver : Resolver) (type : EntityType) : Conversion Tracked :=
  fun entry versions =>
    match materialize resolver type entry with
    | .error failure => (Run.fail failure, versions)
    | .ok tracked => (pure tracked, rememberVersion versions tracked entry)

/-- A conversion followed by a run on its item. -/
def thenRun (conversion : Conversion α) (next : α → Run β) : Conversion β :=
  fun entry versions =>
    let (run, versions) := conversion entry versions
    (run >>= next, versions)

/-- The value of a selector for the entity of an entry. -/
def value (resolver : Resolver) (type : EntityType) (selector : Expr) : Conversion Value :=
  (entity resolver type).thenRun fun tracked =>
    selector.run (some (.record tracked.entity.visibleFields))

/-- A value in a shape. -/
def inShape (shape : Shape) (value : Value) : Run Value :=
  match value.inShape? shape with
  | some value => pure value
  | none => Run.fail (.document .malformed)

/-- The value of a selector for the entity of an entry, in a shape. -/
def shaped (resolver : Resolver) (type : EntityType) (selector : Expr) (shape : Shape) :
    Conversion Value :=
  (value resolver type selector).thenRun (inShape shape)

end Conversion

end ResourceFeed
