import ResourceFeed.Client.Operations

/-! # Seats

    A program may have several clients and several version stores, and each
    client works on one of the stores.  The store has two users inside of a
    client: its operations on entities look versions up and remember what the
    server answers, and its reader remembers the versions of the entries that
    it materializes.

    A seat is a client with the places of the stores of these two.  A client
    is put together in steps; each step that changes a part of it puts the
    reader together again, so that both users end up with one store.
-/

namespace ResourceFeed

/-- The formats in which feeds can be spoken.  There is one, in which all pages and entries are. -/
inductive Codec where
  | json
  deriving DecidableEq, Repr

/-- A client with its format and the places of the version stores that it works on. -/
structure Seat where
  client : Client
  codec : Codec
  /-- The store of its operations on entities; the common store is at zero. -/
  store : Nat
  /-- The store of its reader. -/
  readerStore : Nat

namespace Seat

/-- The seat of a client as its settings have it: with a store of its own, which is put at a free
    place, if they bound the store, or else with the common store. -/
def ofSettings (client : Client) (free : Nat) : Seat :=
  let store := if client.settings.tokenCapacity.isSome then free else 0
  ⟨client, .json, store, store⟩

/-- The seat with its reader put together again. -/
def rewired (seat : Seat) : Seat :=
  { seat with readerStore := seat.store }

/-- The seat with another store. -/
def withStore (seat : Seat) (store : Nat) : Seat :=
  { seat with store := store }.rewired

/-- The seat with another format. -/
def withCodec (seat : Seat) (codec : Codec) : Seat :=
  { seat with codec := codec }.rewired

/-- A seat that was put together in any number of steps. -/
inductive Assembled : Seat → Prop where
  | ofSettings (client : Client) (free : Nat) : Assembled (Seat.ofSettings client free)
  | withStore {seat : Seat} (hseat : Assembled seat) (store : Nat) :
      Assembled (seat.withStore store)
  | withCodec {seat : Seat} (hseat : Assembled seat) (codec : Codec) :
      Assembled (seat.withCodec codec)

/-- Both users of an assembled seat have one store. -/
theorem Assembled.readerStore_eq {seat : Seat} (hseat : seat.Assembled) :
    seat.readerStore = seat.store := by
  cases hseat with
  | ofSettings client free => rfl
  | withStore hseat store => rfl
  | withCodec hseat codec => rfl

end Seat

end ResourceFeed
