/-! # Version stores

    The last known version of each resource, as an opaque token, under the
    identity of the resource: its kind and its key.  A store may be bounded;
    when it holds too many tokens, those inserted longest ago go first.
    Inserting a token again counts as a new insertion.

    A *scope* remembers the identities that were registered with it, and drops
    their tokens when it is closed.
-/

namespace ResourceFeed

/-- What stays the same about a resource: its kind and its key. -/
structure Identity where
  kind : String
  id : String
  deriving DecidableEq, Repr

/-- The text of an identity. -/
def Identity.text (identity : Identity) : String :=
  identity.kind ++ "('" ++ identity.id ++ "')"

/-- A token and when it was inserted. -/
structure VersionSlot where
  identity : Identity
  token : String
  /-- The number of insertions before this one; there are fewer than 2^64 of them. -/
  sequence : Nat
  deriving DecidableEq, Repr

/-- Tokens by identity, each identity once. -/
structure VersionStore where
  slots : List VersionSlot
  /-- How many tokens may be held; unbounded if `none`. -/
  capacity : Option Nat
  /-- How many insertions there have been.  A counter of 64 bits would begin anew after 2^64 of
      them; this one stands for it as long as there are fewer. -/
  sequence : Nat
  deriving Repr

namespace VersionStore

/-- An empty store. -/
def empty (capacity : Option Nat) : VersionStore :=
  ⟨[], capacity, 0⟩

/-- The slot of an identity. -/
def slot? (store : VersionStore) (identity : Identity) : Option VersionSlot :=
  store.slots.find? fun slot => slot.identity = identity

/-- The token of an identity. -/
def get? (store : VersionStore) (identity : Identity) : Option String :=
  (store.slot? identity).map (·.token)

/-- Whether there is a token for an identity. -/
def contains (store : VersionStore) (identity : Identity) : Bool :=
  (store.slot? identity).isSome

/-- How many tokens the store holds. -/
def size (store : VersionStore) : Nat :=
  store.slots.length

/-- The earlier of two slots. -/
def earlier (a b : VersionSlot) : VersionSlot :=
  if b.sequence < a.sequence then b else a

/-- The slots without the one inserted longest ago. -/
def dropOldest (slots : List VersionSlot) : List VersionSlot :=
  match slots with
  | [] => []
  | first :: rest =>
    let oldest := rest.foldl earlier first
    slots.filter fun slot => slot.identity ≠ oldest.identity

/-- Drops the oldest of the slots a number of times. -/
def dropOldestTimes : Nat → List VersionSlot → List VersionSlot
  | 0, slots => slots
  | times + 1, slots => dropOldestTimes times (dropOldest slots)

/-- The slots without those for which there is no room. -/
def evict (capacity : Option Nat) (slots : List VersionSlot) : List VersionSlot :=
  match capacity with
  | none => slots
  | some capacity => dropOldestTimes (slots.length - capacity) slots

/-- The slots with a slot in place of the one of its identity, or added to them. -/
def put (slot : VersionSlot) : List VersionSlot → List VersionSlot
  | [] => [slot]
  | other :: rest =>
    if other.identity = slot.identity then slot :: rest else other :: put slot rest

/-- Sets the token of an identity. -/
def insert (store : VersionStore) (identity : Identity) (token : String) : VersionStore :=
  { store with
    slots := evict store.capacity (put ⟨identity, token, store.sequence⟩ store.slots)
    sequence := store.sequence + 1 }

/-- Drops the token of an identity. -/
def remove (store : VersionStore) (identity : Identity) : VersionStore :=
  { store with slots := store.slots.filter fun slot => slot.identity ≠ identity }

/-- Drops all tokens. -/
def clear (store : VersionStore) : VersionStore :=
  { store with slots := [] }

end VersionStore

/-- The identities registered with a scope, in the order of their registration. -/
structure VersionScope where
  identities : List Identity
  deriving Repr

namespace VersionScope

/-- A scope with which nothing is registered. -/
def opened : VersionScope := ⟨[]⟩

/-- Registers an identity whose token is inserted elsewhere. -/
def track (scope : VersionScope) (identity : Identity) : VersionScope :=
  ⟨scope.identities ++ [identity]⟩

/-- Inserts a token and registers its identity. -/
def insert (scope : VersionScope) (store : VersionStore) (identity : Identity) (token : String) :
    VersionScope × VersionStore :=
  (scope.track identity, store.insert identity token)

/-- Closes the scope: the tokens of all registered identities are dropped. -/
def close (scope : VersionScope) (store : VersionStore) : VersionStore :=
  scope.identities.foldl VersionStore.remove store

end VersionScope

end ResourceFeed
