import ResourceFeed.Proofs.Version.Lookup

/-! # Stores as lists by last insertion

    A version store keeps its tokens in no order that matters and finds the
    oldest one by its number.  It answers like a much simpler thing: a list of
    identities with their tokens, the one inserted last at the end, from whose
    front tokens are dropped when there is no room.

    The two are compared on everything that a program can do with a store and
    with scopes, in any order.  One lemma says that an action keeps them alike
    and gets the same answer from both (`Alike.act`), and the run follows by
    induction.  What is said of stores at the end is then read off the list.
-/

namespace ResourceFeed

/-! ### Lists by last insertion -/

/-- Tokens by identity in the order of their last insertion, the oldest first. -/
structure Recency where
  entries : List (Identity × String)
  /-- How many tokens may be held; unbounded if `none`. -/
  capacity : Option Nat

namespace Recency

/-- An empty list. -/
def empty (capacity : Option Nat) : Recency :=
  ⟨[], capacity⟩

/-- The token of an identity. -/
def get? (recency : Recency) (identity : Identity) : Option String :=
  (recency.entries.find? fun entry => entry.1 = identity).map (·.2)

/-- Drops tokens from the front until there is room for the others. -/
def fit : Option Nat → List (Identity × String) → List (Identity × String)
  | none, entries => entries
  | some capacity, entries => entries.drop (entries.length - capacity)

/-- Puts a token at the end, where it is the only one of its identity. -/
def insert (recency : Recency) (identity : Identity) (token : String) : Recency :=
  { recency with
    entries := fit recency.capacity
      (recency.entries.filter (fun entry => entry.1 ≠ identity) ++ [(identity, token)]) }

/-- Drops the tokens of some identities. -/
def without (recency : Recency) (identities : List Identity) : Recency :=
  { recency with entries := recency.entries.filter fun entry => entry.1 ∉ identities }

end Recency

/-! ### What a program does with tokens -/

/-- What can hold tokens, with a view to scopes. -/
class TokenKeeper (κ : Type) where
  insert : κ → Identity → String → κ
  get? : κ → Identity → Option String
  contains : κ → Identity → Bool
  size : κ → Nat
  remove : κ → Identity → κ
  clear : κ → κ
  /-- Inserts a token and registers its identity with a scope. -/
  insertThrough : VersionScope → κ → Identity → String → VersionScope × κ
  /-- Drops the tokens of all identities that are registered with a scope. -/
  close : VersionScope → κ → κ

instance : TokenKeeper VersionStore where
  insert := VersionStore.insert
  get? := VersionStore.get?
  contains := VersionStore.contains
  size := VersionStore.size
  remove := VersionStore.remove
  clear := VersionStore.clear
  insertThrough := VersionScope.insert
  close := VersionScope.close

instance : TokenKeeper Recency where
  insert := Recency.insert
  get? := Recency.get?
  contains recency identity := (recency.get? identity).isSome
  size recency := recency.entries.length
  remove recency identity := recency.without [identity]
  clear recency := { recency with entries := [] }
  insertThrough scope recency identity token :=
    (scope.track identity, recency.insert identity token)
  close scope recency := recency.without scope.identities

/-- Something that is done with tokens.  Scopes go by numbers. -/
inductive TokenAction where
  | insert (identity : Identity) (token : String)
  | get (identity : Identity)
  | remove (identity : Identity)
  | contains (identity : Identity)
  | count
  | clear
  /-- Opens a scope; one that was open under the same number is closed after that. -/
  | openScope (scope : Nat)
  | insertThrough (scope : Nat) (identity : Identity) (token : String)
  | track (scope : Nat) (identity : Identity)
  | closeScope (scope : Nat)

/-- The answer to an action. -/
inductive TokenAnswer where
  | done
  | token (token : Option String)
  | truth (value : Bool)
  | count (count : Nat)
  deriving DecidableEq

/-- What holds the tokens of a program, with the scopes that are open. -/
@[ext]
structure Shelf (κ : Type) where
  keeper : κ
  scopes : Nat → Option VersionScope

namespace Shelf

variable {κ : Type}

/-- No scope is open. -/
def start (keeper : κ) : Shelf κ :=
  ⟨keeper, fun _ => none⟩

/-- The shelf with a scope put under a number, or taken away. -/
def setScope (shelf : Shelf κ) (number : Nat) (scope : Option VersionScope) : Shelf κ :=
  { shelf with
    scopes := fun other => if other = number then scope else shelf.scopes other }

variable [TokenKeeper κ]

/-- The shelf after a scope was closed, if it was open. -/
def closing (shelf : Shelf κ) (number : Nat) : Shelf κ :=
  match shelf.scopes number with
  | none => shelf
  | some scope => { shelf.setScope number none with keeper := TokenKeeper.close scope shelf.keeper }

/-- Does something with the tokens.  Nothing is done through a scope that is not open. -/
def act (shelf : Shelf κ) : TokenAction → TokenAnswer × Shelf κ
  | .insert identity token =>
    (.done, { shelf with keeper := TokenKeeper.insert shelf.keeper identity token })
  | .get identity => (.token (TokenKeeper.get? shelf.keeper identity), shelf)
  | .remove identity =>
    (.token (TokenKeeper.get? shelf.keeper identity),
      { shelf with keeper := TokenKeeper.remove shelf.keeper identity })
  | .contains identity => (.truth (TokenKeeper.contains shelf.keeper identity), shelf)
  | .count => (.count (TokenKeeper.size shelf.keeper), shelf)
  | .clear => (.done, { shelf with keeper := TokenKeeper.clear shelf.keeper })
  | .openScope number => (.done, (shelf.closing number).setScope number (some .opened))
  | .insertThrough number identity token =>
    match shelf.scopes number with
    | none => (.done, shelf)
    | some scope =>
      let (scope, keeper) := TokenKeeper.insertThrough scope shelf.keeper identity token
      (.done, { shelf.setScope number (some scope) with keeper := keeper })
  | .track number identity =>
    match shelf.scopes number with
    | none => (.done, shelf)
    | some scope => (.done, shelf.setScope number (some (scope.track identity)))
  | .closeScope number => (.done, shelf.closing number)

/-- The shelf after actions in turn. -/
def run (shelf : Shelf κ) (actions : List TokenAction) : Shelf κ :=
  actions.foldl (fun shelf action => (shelf.act action).2) shelf

/-- The answers to actions in turn. -/
def answers (shelf : Shelf κ) : List TokenAction → List TokenAnswer
  | [] => []
  | action :: rest => (shelf.act action).1 :: (shelf.act action).2.answers rest

/-- The identity whose token an action inserts. -/
def inserted? (shelf : Shelf κ) : TokenAction → Option Identity
  | .insert identity _ => some identity
  | .insertThrough number identity _ => (shelf.scopes number).map fun _ => identity
  | _ => none

/-- The identities whose tokens were inserted, newest first, after earlier insertions. -/
def insertions (shelf : Shelf κ) (earlier : List Identity) : List TokenAction → List Identity
  | [] => earlier
  | action :: rest =>
    (shelf.act action).2.insertions ((shelf.inserted? action).toList ++ earlier) rest

end Shelf

/-! ### Slots in the order of their numbers -/

namespace VersionStore

/-- Each identity has one slot at most. -/
def Apart (slots : List VersionSlot) : Prop :=
  slots.Pairwise fun a b => a.identity ≠ b.identity

/-- A list of slots is the same slots in the order of their numbers. -/
structure Sorts (slots sorted : List VersionSlot) : Prop where
  perm : slots.Perm sorted
  ascending : sorted.Pairwise fun a b => a.sequence < b.sequence

theorem apart_of_perm {slots sorted : List VersionSlot} (hapart : Apart slots)
    (hperm : slots.Perm sorted) : Apart sorted :=
  hperm.pairwise hapart fun h => Ne.symm h

/-- If each identity has one slot at most, a slot that is there is found. -/
theorem find?_eq_some_iff {slots : List VersionSlot} (hapart : Apart slots) {identity : Identity}
    {slot : VersionSlot} :
    find? slots identity = some slot ↔ slot ∈ slots ∧ slot.identity = identity := by
  induction slots with
  | nil => simp [find?]
  | cons first rest ih =>
    obtain ⟨hfirst, hrest⟩ := List.pairwise_cons.mp hapart
    rw [find?_cons]
    by_cases hsame : first.identity = identity
    · rw [if_pos hsame]
      constructor
      · rintro ⟨rfl⟩
        exact ⟨List.mem_cons_self, hsame⟩
      · rintro ⟨hmem, hslot⟩
        rcases List.mem_cons.mp hmem with rfl | hmem
        · rfl
        · exact absurd (hsame.trans hslot.symm) (hfirst slot hmem)
    · rw [if_neg hsame, ih hrest, List.mem_cons]
      constructor
      · rintro ⟨hmem, hslot⟩
        exact ⟨.inr hmem, hslot⟩
      · rintro ⟨rfl | hmem, hslot⟩
        · exact absurd hslot hsame
        · exact ⟨hmem, hslot⟩

/-- The order of slots does not matter to a lookup. -/
theorem find?_of_perm {slots sorted : List VersionSlot} (hapart : Apart slots)
    (hperm : slots.Perm sorted) (identity : Identity) :
    find? slots identity = find? sorted identity := by
  apply Option.ext
  intro slot
  rw [find?_eq_some_iff hapart, find?_eq_some_iff (apart_of_perm hapart hperm), hperm.mem_iff]

/-- Putting a slot in place of another moves it, in effect, to the end. -/
theorem put_perm {slots : List VersionSlot} (hapart : Apart slots) (slot : VersionSlot) :
    (put slot slots).Perm ((slots.filter fun other => other.identity ≠ slot.identity) ++ [slot]) := by
  induction slots with
  | nil => exact .refl _
  | cons other rest ih =>
    obtain ⟨hother, hrest⟩ := List.pairwise_cons.mp hapart
    rw [put]
    by_cases hsame : other.identity = slot.identity
    · -- no later slot has the identity
      have hkept : (rest.filter fun other => other.identity ≠ slot.identity) = rest :=
        List.filter_eq_self.mpr fun later hlater =>
          decide_eq_true (hsame ▸ (hother later hlater).symm)
      rw [if_pos hsame, List.filter_cons_of_neg (by simp [hsame]), hkept]
      exact (List.perm_append_singleton slot rest).symm
    · rw [if_neg hsame, List.filter_cons_of_pos (by simp [hsame])]
      exact (ih hrest).cons other

theorem mem_put {slot other : VersionSlot} {slots : List VersionSlot} (h : other ∈ put slot slots) :
    other = slot ∨ other ∈ slots := by
  induction slots with
  | nil => exact .inl (List.mem_singleton.mp h)
  | cons first rest ih =>
    rw [put] at h
    by_cases hsame : first.identity = slot.identity
    · rw [if_pos hsame] at h
      exact (List.mem_cons.mp h).imp_right (List.mem_cons_of_mem first)
    · rw [if_neg hsame] at h
      rcases List.mem_cons.mp h with rfl | h
      · exact .inr List.mem_cons_self
      · exact (ih h).imp_right (List.mem_cons_of_mem first)

/-- Among slots, the one inserted longest ago is one of them, and none has a smaller number. -/
theorem oldest_spec (first : VersionSlot) (rest : List VersionSlot) :
    rest.foldl earlier first ∈ first :: rest ∧
      ∀ slot ∈ first :: rest, (rest.foldl earlier first).sequence ≤ slot.sequence := by
  induction rest generalizing first with
  | nil => simp
  | cons second rest ih =>
    obtain ⟨hmem, hleast⟩ := ih (earlier first second)
    have hearlier : (earlier first second = first ∨ earlier first second = second) ∧
        (earlier first second).sequence ≤ first.sequence ∧
        (earlier first second).sequence ≤ second.sequence := by
      unfold earlier
      split
      · rename_i hlt
        exact ⟨.inr rfl, Nat.le_of_lt hlt, Nat.le_refl _⟩
      · rename_i hge
        exact ⟨.inl rfl, Nat.le_refl _, Nat.not_lt.mp hge⟩
    obtain ⟨hone, hfirst, hsecond⟩ := hearlier
    have hleft := hleast (earlier first second) List.mem_cons_self
    rw [List.foldl_cons]
    constructor
    · rcases List.mem_cons.mp hmem with h | h
      · rw [h]
        rcases hone with h | h <;> simp [h]
      · exact List.mem_cons_of_mem _ (List.mem_cons_of_mem _ h)
    · intro slot hslot
      rcases List.mem_cons.mp hslot with rfl | hslot
      · exact Nat.le_trans hleft hfirst
      rcases List.mem_cons.mp hslot with rfl | hslot
      · exact Nat.le_trans hleft hsecond
      · exact hleast slot (List.mem_cons_of_mem _ hslot)

/-- **Eviction takes the front**: the slot that is dropped is the first one in the order of the
    numbers. -/
theorem dropOldest_sorts {slots sorted : List VersionSlot} (hapart : Apart slots)
    (hsorts : Sorts slots sorted) : Sorts (dropOldest slots) sorted.tail := by
  refine ⟨?_, hsorts.ascending.tail⟩
  cases slots with
  | nil =>
    rw [hsorts.perm.symm.eq_nil]
    exact .refl _
  | cons first rest =>
    obtain ⟨front, others, rfl⟩ : ∃ front others, sorted = front :: others :=
      List.exists_cons_of_ne_nil fun hnil => by
        have hlength := hsorts.perm.length_eq
        rw [hnil] at hlength
        cases hlength
    obtain ⟨hmem, hleast⟩ := oldest_spec first rest
    obtain ⟨hfront, -⟩ := List.pairwise_cons.mp hsorts.ascending
    have holdest : rest.foldl earlier first = front := by
      rcases List.mem_cons.mp (hsorts.perm.mem_iff.mp hmem) with h | h
      · exact h
      · have hlt := hfront _ h
        have hle := hleast front (hsorts.perm.mem_iff.mpr List.mem_cons_self)
        omega
    obtain ⟨hdistinct, -⟩ := List.pairwise_cons.mp (apart_of_perm hapart hsorts.perm)
    have htail : ((front :: others).filter fun slot => slot.identity ≠ front.identity) = others := by
      rw [List.filter_cons_of_neg (by simp)]
      exact List.filter_eq_self.mpr fun slot hslot => decide_eq_true (hdistinct slot hslot).symm
    show (List.filter _ _).Perm others
    rw [holdest]
    exact htail ▸ hsorts.perm.filter _

theorem dropOldest_apart {slots : List VersionSlot} (hapart : Apart slots) :
    Apart (dropOldest slots) := by
  cases slots with
  | nil => exact hapart
  | cons first rest => exact List.Pairwise.filter _ hapart

theorem mem_dropOldest {slot : VersionSlot} {slots : List VersionSlot}
    (h : slot ∈ dropOldest slots) : slot ∈ slots := by
  cases slots with
  | nil => exact h
  | cons first rest => exact (List.mem_filter.mp h).1

theorem dropOldestTimes_sorts {slots sorted : List VersionSlot} (times : Nat) (hapart : Apart slots)
    (hsorts : Sorts slots sorted) :
    Apart (dropOldestTimes times slots) ∧ Sorts (dropOldestTimes times slots) (sorted.drop times) ∧
      ∀ slot ∈ dropOldestTimes times slots, slot ∈ slots := by
  induction times generalizing slots sorted with
  | zero => exact ⟨hapart, hsorts, fun _ h => h⟩
  | succ times ih =>
    obtain ⟨hstill, hdropped, hmem⟩ :=
      ih (dropOldest_apart hapart) (dropOldest_sorts hapart hsorts)
    rw [List.drop_tail] at hdropped
    exact ⟨hstill, hdropped, fun slot h => mem_dropOldest (hmem slot h)⟩

/-- A removal of several identities in turn drops the slots of all of them. -/
theorem foldl_remove (store : VersionStore) (identities : List Identity) :
    identities.foldl remove store =
      { store with slots := store.slots.filter fun slot => slot.identity ∉ identities } := by
  induction identities generalizing store with
  | nil =>
    have hall : (store.slots.filter fun slot => slot.identity ∉ ([] : List Identity)) =
        store.slots := List.filter_eq_self.mpr fun slot _ => by simp
    rw [List.foldl_nil, hall]
  | cons identity rest ih =>
    rw [List.foldl_cons, ih, remove]
    simp only [List.filter_filter, List.mem_cons, not_or, Bool.decide_and, Bool.and_comm]

end VersionStore

/-! ### A store and a list that are alike -/

/-- The identity and the token of a slot. -/
def VersionSlot.entry (slot : VersionSlot) : Identity × String :=
  (slot.identity, slot.token)

open VersionStore (Apart Sorts)

/-- **The invariant**: the list has the slots of the store in the order of their numbers. -/
structure Alike (store : VersionStore) (recency : Recency) : Prop where
  capacity : recency.capacity = store.capacity
  apart : Apart store.slots
  /-- Every slot was numbered by an insertion. -/
  numbered : ∀ slot ∈ store.slots, slot.sequence < store.sequence
  sorted : ∃ sorted, Sorts store.slots sorted ∧ recency.entries = sorted.map VersionSlot.entry

namespace Alike

variable {store : VersionStore} {recency : Recency}

theorem empty (capacity : Option Nat) : Alike (.empty capacity) (.empty capacity) where
  capacity := rfl
  apart := .nil
  numbered := nofun
  sorted := ⟨[], ⟨.nil, .nil⟩, rfl⟩

theorem size_eq (h : Alike store recency) : store.size = recency.entries.length := by
  obtain ⟨sorted, hsorts, hentries⟩ := h.sorted
  rw [hentries, List.length_map]
  exact hsorts.perm.length_eq

theorem get?_eq (h : Alike store recency) (identity : Identity) :
    store.get? identity = recency.get? identity := by
  obtain ⟨sorted, hsorts, hentries⟩ := h.sorted
  have hlookup : store.slot? identity = VersionStore.find? sorted identity :=
    VersionStore.find?_of_perm h.apart hsorts.perm identity
  rw [VersionStore.get?, hlookup, Recency.get?, hentries, List.find?_map, Option.map_map]
  rfl

theorem contains_eq (h : Alike store recency) (identity : Identity) :
    store.contains identity = (recency.get? identity).isSome := by
  rw [← h.get?_eq, VersionStore.get?, Option.isSome_map]
  rfl

/-- Making room drops the same tokens from both. -/
theorem evict {slots sorted : List VersionSlot} (capacity : Option Nat) (hapart : Apart slots)
    (hsorts : Sorts slots sorted) :
    Apart (VersionStore.evict capacity slots) ∧
      (∀ slot ∈ VersionStore.evict capacity slots, slot ∈ slots) ∧
      ∃ kept, Sorts (VersionStore.evict capacity slots) kept ∧
        Recency.fit capacity (sorted.map VersionSlot.entry) = kept.map VersionSlot.entry := by
  cases capacity with
  | none => exact ⟨hapart, fun _ h => h, sorted, hsorts, rfl⟩
  | some bound =>
    obtain ⟨hstill, hdropped, hmem⟩ :=
      VersionStore.dropOldestTimes_sorts (slots.length - bound) hapart hsorts
    refine ⟨hstill, hmem, _, hdropped, ?_⟩
    rw [Recency.fit, List.length_map, ← hsorts.perm.length_eq, List.map_drop]

theorem insert (h : Alike store recency) (identity : Identity) (token : String) :
    Alike (store.insert identity token) (recency.insert identity token) := by
  obtain ⟨sorted, hsorts, hentries⟩ := h.sorted
  let slot : VersionSlot := ⟨identity, token, store.sequence⟩
  have hperm : (VersionStore.put slot store.slots).Perm
      ((sorted.filter fun other => other.identity ≠ identity) ++ [slot]) :=
    (VersionStore.put_perm h.apart slot).trans ((hsorts.perm.filter _).append_right _)
  have happend : Apart ((sorted.filter fun other => other.identity ≠ identity) ++ [slot]) := by
    refine List.pairwise_append.mpr ⟨?_, List.pairwise_singleton _ _, ?_⟩
    · exact (VersionStore.apart_of_perm h.apart hsorts.perm).filter _
    · intro other hother last hlast
      rw [List.mem_singleton.mp hlast]
      exact of_decide_eq_true (List.mem_filter.mp hother).2
  -- the new slot has the greatest number
  have hascending : ((sorted.filter fun other => other.identity ≠ identity) ++ [slot]).Pairwise
      fun a b => a.sequence < b.sequence := by
    refine List.pairwise_append.mpr ⟨hsorts.ascending.filter _, List.pairwise_singleton _ _, ?_⟩
    intro other hother last hlast
    rw [List.mem_singleton.mp hlast]
    exact h.numbered other (hsorts.perm.mem_iff.mpr (List.mem_filter.mp hother).1)
  have hput : Apart (VersionStore.put slot store.slots) :=
    VersionStore.apart_of_perm happend hperm.symm
  obtain ⟨hstill, hmem, kept, hkept, hfit⟩ := evict store.capacity hput ⟨hperm, hascending⟩
  refine ⟨h.capacity, hstill, ?_, kept, hkept, ?_⟩
  · intro other hother
    rcases VersionStore.mem_put (hmem other hother) with rfl | hold
    · exact Nat.lt_succ_self store.sequence
    · exact Nat.lt_succ_of_lt (h.numbered other hold)
  · rw [← hfit]
    show Recency.fit recency.capacity _ = _
    rw [h.capacity, hentries, List.map_append, List.filter_map]
    rfl

theorem without (h : Alike store recency) (identities : List Identity) :
    Alike (identities.foldl VersionStore.remove store) (recency.without identities) := by
  obtain ⟨sorted, hsorts, hentries⟩ := h.sorted
  rw [VersionStore.foldl_remove]
  refine ⟨h.capacity, h.apart.filter _, ?_, _, ⟨hsorts.perm.filter _, hsorts.ascending.filter _⟩, ?_⟩
  · intro slot hslot
    exact h.numbered slot (List.mem_filter.mp hslot).1
  · show recency.entries.filter _ = _
    rw [hentries, List.filter_map]
    rfl

theorem clear (h : Alike store recency) :
    Alike store.clear { recency with entries := [] } where
  capacity := h.capacity
  apart := .nil
  numbered := nofun
  sorted := ⟨[], ⟨.nil, .nil⟩, rfl⟩

end Alike

namespace Shelf

/-- Two shelves with a store and a list that are alike, and with the same scopes. -/
structure AreAlike (stored : Shelf VersionStore) (listed : Shelf Recency) : Prop where
  keepers : Alike stored.keeper listed.keeper
  scopes : stored.scopes = listed.scopes

variable {stored : Shelf VersionStore} {listed : Shelf Recency}

theorem AreAlike.setScope (h : AreAlike stored listed) (number : Nat)
    (scope : Option VersionScope) :
    (stored.setScope number scope).AreAlike (listed.setScope number scope) where
  keepers := h.keepers
  scopes := by
    funext other
    show (if other = number then scope else stored.scopes other) = _
    rw [h.scopes]
    rfl

theorem AreAlike.closing (h : AreAlike stored listed) (number : Nat) :
    (stored.closing number).AreAlike (listed.closing number) := by
  unfold Shelf.closing
  rw [h.scopes]
  cases listed.scopes number with
  | none => exact h
  | some scope => exact ⟨h.keepers.without scope.identities, (h.setScope number none).scopes⟩

/-- **One action** gets the same answer from a store and a list, and keeps them alike. -/
theorem AreAlike.act (h : AreAlike stored listed) (action : TokenAction) :
    (stored.act action).1 = (listed.act action).1 ∧
      (stored.act action).2.AreAlike (listed.act action).2 := by
  cases action with
  | insert identity token => exact ⟨rfl, h.keepers.insert identity token, h.scopes⟩
  | get identity => exact ⟨congrArg TokenAnswer.token (h.keepers.get?_eq identity), h⟩
  | remove identity =>
    exact ⟨congrArg TokenAnswer.token (h.keepers.get?_eq identity),
      h.keepers.without [identity], h.scopes⟩
  | contains identity => exact ⟨congrArg TokenAnswer.truth (h.keepers.contains_eq identity), h⟩
  | count => exact ⟨congrArg TokenAnswer.count h.keepers.size_eq, h⟩
  | clear => exact ⟨rfl, h.keepers.clear, h.scopes⟩
  | openScope number => exact ⟨rfl, (h.closing number).setScope number _⟩
  | closeScope number => exact ⟨rfl, h.closing number⟩
  | insertThrough number identity token =>
    unfold Shelf.act
    simp only [h.scopes]
    cases listed.scopes number with
    | none => exact ⟨rfl, h⟩
    | some scope =>
      exact ⟨rfl, h.keepers.insert identity token, (h.setScope number _).scopes⟩
  | track number identity =>
    unfold Shelf.act
    simp only [h.scopes]
    cases listed.scopes number with
    | none => exact ⟨rfl, h⟩
    | some scope => exact ⟨rfl, h.setScope number _⟩

/-- So they stay alike, and all answers are the same. -/
theorem AreAlike.run (h : AreAlike stored listed) (actions : List TokenAction) :
    stored.answers actions = listed.answers actions ∧
      (stored.run actions).AreAlike (listed.run actions) := by
  induction actions generalizing stored listed with
  | nil => exact ⟨rfl, h⟩
  | cons action rest ih =>
    obtain ⟨hanswer, hnext⟩ := h.act action
    obtain ⟨hanswers, hlast⟩ := ih hnext
    refine ⟨?_, hlast⟩
    rw [answers, answers, hanswer, hanswers]

/-- The same identities are inserted. -/
theorem AreAlike.insertions (h : AreAlike stored listed) (earlier : List Identity)
    (actions : List TokenAction) :
    stored.insertions earlier actions = listed.insertions earlier actions := by
  induction actions generalizing stored listed earlier with
  | nil => rfl
  | cons action rest ih =>
    have hinserted : stored.inserted? action = listed.inserted? action := by
      unfold inserted?
      rw [h.scopes]
    rw [Shelf.insertions, Shelf.insertions, hinserted]
    exact ih (h.act action).2 _

end Shelf

/-! ### What the order says -/

/-- An identity was inserted since another one was inserted last; newest insertions first. -/
def InsertedSince (newest : List Identity) (last identity : Identity) : Prop :=
  identity ∈ newest.takeWhile (· ≠ last)

instance (newest : List Identity) (last identity : Identity) :
    Decidable (InsertedSince newest last identity) :=
  inferInstanceAs (Decidable (_ ∈ _))

theorem insertedSince_cons {newest : List Identity} {first last identity : Identity}
    (hne : first ≠ last) :
    InsertedSince (first :: newest) last identity ↔
      identity = first ∨ InsertedSince newest last identity := by
  unfold InsertedSince
  rw [List.takeWhile_cons_of_pos (by simpa using hne), List.mem_cons]

/-- **The order of the list** is that of the last insertions: all its identities were inserted,
    and those behind another one were inserted since. -/
structure InOrder (newest : List Identity) (entries : List (Identity × String)) : Prop where
  inserted : ∀ entry ∈ entries, entry.1 ∈ newest
  since : entries.Pairwise fun a b => InsertedSince newest a.1 b.1

namespace InOrder

variable {newest : List Identity} {entries : List (Identity × String)}

theorem sublist {fewer : List (Identity × String)} (h : InOrder newest entries)
    (hfewer : fewer.Sublist entries) : InOrder newest fewer where
  inserted := fun entry hentry => h.inserted entry (hfewer.subset hentry)
  since := h.since.sublist hfewer

/-- An insertion puts its identity behind all others. -/
theorem insertion (h : InOrder newest entries) (identity : Identity) (token : String) :
    InOrder (identity :: newest)
      (entries.filter (fun entry => entry.1 ≠ identity) ++ [(identity, token)]) := by
  have hother : ∀ entry ∈ entries.filter (fun entry => entry.1 ≠ identity),
      entry ∈ entries ∧ identity ≠ entry.1 := by
    intro entry hentry
    obtain ⟨hmem, hne⟩ := List.mem_filter.mp hentry
    exact ⟨hmem, Ne.symm (of_decide_eq_true hne)⟩
  constructor
  · intro entry hentry
    rcases List.mem_append.mp hentry with hentry | hentry
    · exact List.mem_cons_of_mem _ (h.inserted entry (hother entry hentry).1)
    · rw [List.mem_singleton.mp hentry]
      exact List.mem_cons_self
  · refine List.pairwise_append.mpr ⟨?_, List.pairwise_singleton _ _, ?_⟩
    · refine (h.since.filter _).imp_of_mem ?_
      intro first second hfirst _ hsince
      exact (insertedSince_cons (hother first hfirst).2).mpr (.inr hsince)
    · intro entry hentry last hlast
      rw [List.mem_singleton.mp hlast]
      exact (insertedSince_cons (hother entry hentry).2).mpr (.inl rfl)

end InOrder

/-- What room there is left behind after some entries were dropped from the front. -/
theorem Recency.exists_fit (capacity : Option Nat) (entries : List (Identity × String)) :
    ∃ dropped, entries = dropped ++ fit capacity entries := by
  cases capacity with
  | none => exact ⟨[], rfl⟩
  | some bound => exact ⟨entries.take _, (List.take_append_drop _ _).symm⟩

theorem Recency.length_fit_le (bound : Nat) (entries : List (Identity × String)) :
    (fit (some bound) entries).length ≤ bound := by
  rw [fit, List.length_drop]
  omega

/-- A list within its bound and in the order of the last insertions. -/
structure Recency.Kept (capacity : Option Nat) (newest : List Identity) (recency : Recency) :
    Prop where
  bounded : recency.capacity = capacity
  room : ∀ bound, capacity = some bound → recency.entries.length ≤ bound
  order : InOrder newest recency.entries

namespace Recency.Kept

variable {capacity : Option Nat} {newest : List Identity} {recency : Recency}

theorem insert (h : Kept capacity newest recency) (identity : Identity) (token : String) :
    Kept capacity (identity :: newest) (recency.insert identity token) where
  bounded := h.bounded
  room := by
    rintro bound rfl
    show (fit recency.capacity _).length ≤ bound
    rw [h.bounded]
    exact length_fit_le bound _
  order := by
    obtain ⟨dropped, hdropped⟩ := exists_fit recency.capacity
      (recency.entries.filter (fun entry => entry.1 ≠ identity) ++ [(identity, token)])
    refine (h.order.insertion identity token).sublist ?_
    rw [hdropped]
    exact List.sublist_append_right _ _

theorem without (h : Kept capacity newest recency) (identities : List Identity) :
    Kept capacity newest (recency.without identities) where
  bounded := h.bounded
  room := fun bound hbound => Nat.le_trans (List.length_filter_le _ _) (h.room bound hbound)
  order := h.order.sublist List.filter_sublist

theorem clear (h : Kept capacity newest recency) :
    Kept capacity newest { recency with entries := [] } where
  bounded := h.bounded
  room := fun bound _ => Nat.zero_le bound
  order := ⟨nofun, .nil⟩

theorem closing {listed : Shelf Recency} (h : Kept capacity newest listed.keeper) (number : Nat) :
    Kept capacity newest (listed.closing number).keeper := by
  unfold Shelf.closing
  cases listed.scopes number with
  | none => exact h
  | some scope => exact h.without scope.identities

/-- One action keeps the list in order. -/
theorem act {listed : Shelf Recency} (h : Kept capacity newest listed.keeper)
    (action : TokenAction) :
    Kept capacity ((listed.inserted? action).toList ++ newest) (listed.act action).2.keeper := by
  cases action with
  | insert identity token => exact h.insert identity token
  | get | contains | count => exact h
  | remove identity => exact h.without [identity]
  | clear => exact h.clear
  | openScope number | closeScope number => exact h.closing number
  | insertThrough number identity token =>
    simp only [Shelf.act, Shelf.inserted?]
    cases listed.scopes number with
    | none => exact h
    | some scope => exact h.insert identity token
  | track number identity =>
    simp only [Shelf.act]
    cases listed.scopes number with
    | none => exact h
    | some scope => exact h

theorem run {listed : Shelf Recency} (h : Kept capacity newest listed.keeper)
    (actions : List TokenAction) :
    Kept capacity (listed.insertions newest actions) (listed.run actions).keeper := by
  induction actions generalizing listed newest with
  | nil => exact h
  | cons action rest ih => exact ih (h.act action)

theorem start (capacity : Option Nat) : Kept capacity [] (.empty capacity) where
  bounded := rfl
  room := fun bound _ => Nat.zero_le bound
  order := ⟨nofun, .nil⟩

end Recency.Kept

/-! ### Tokens that are dropped, and tokens that stay -/

theorem Recency.isSome_get?_iff {recency : Recency} {identity : Identity} :
    (recency.get? identity).isSome = true ↔ ∃ entry ∈ recency.entries, entry.1 = identity := by
  rw [get?, Option.isSome_map, List.find?_isSome]
  simp only [decide_eq_true_eq]

/-- An insertion drops identities only that were inserted longer ago than all that stay. -/
theorem Recency.insertedSince_of_dropped {recency : Recency} {newest : List Identity}
    (h : InOrder newest recency.entries) {identity dropped kept : Identity} {token : String}
    (hbefore : (recency.get? dropped).isSome = true)
    (hafter : ((recency.insert identity token).get? dropped).isSome = false)
    (hkept : ((recency.insert identity token).get? kept).isSome = true) :
    InsertedSince (identity :: newest) dropped kept := by
  have horder := (h.insertion identity token).since
  obtain ⟨front, hfront⟩ := exists_fit recency.capacity
    (recency.entries.filter (fun entry => entry.1 ≠ identity) ++ [(identity, token)])
  obtain ⟨stays, hstays, rfl⟩ := isSome_get?_iff.mp hkept
  have hgone : ∀ entry ∈ (recency.insert identity token).entries, entry.1 ≠ dropped := by
    intro entry hentry hsame
    rw [isSome_get?_iff.mpr ⟨entry, hentry, hsame⟩] at hafter
    cases hafter
  -- its entry was there before room was made, so it stood in the part that was dropped
  have hthere : ∃ entry ∈ recency.entries.filter (fun entry => entry.1 ≠ identity) ++
      [(identity, token)], entry.1 = dropped := by
    obtain ⟨entry, hentry, rfl⟩ := isSome_get?_iff.mp hbefore
    by_cases hsame : entry.1 = identity
    · exact ⟨(identity, token), List.mem_append_right _ List.mem_cons_self, hsame.symm⟩
    · exact ⟨entry, List.mem_append_left _ (List.mem_filter.mpr ⟨hentry, by simpa using hsame⟩), rfl⟩
  obtain ⟨entry, hentry, rfl⟩ := hthere
  rw [hfront] at horder hentry
  obtain ⟨-, -, hacross⟩ := List.pairwise_append.mp horder
  rcases List.mem_append.mp hentry with hentry | hentry
  · exact hacross entry hentry stays hstays
  · exact absurd rfl (hgone entry hentry)

/-- A token that was just inserted is there, if there is room for any. -/
theorem Recency.get?_insert_self (recency : Recency) (hroom : recency.capacity ≠ some 0)
    (identity : Identity) (token : String) :
    (recency.insert identity token).get? identity = some token := by
  have hlast : (identity, token) ∈ (recency.insert identity token).entries := by
    show _ ∈ fit recency.capacity _
    cases hcapacity : recency.capacity with
    | none => exact List.mem_append_right _ List.mem_cons_self
    | some bound =>
      have hbound : bound ≠ 0 := fun h => hroom (hcapacity.trans (congrArg some h))
      rw [fit, List.length_append, List.length_singleton,
        List.drop_append_of_le_length (by omega)]
      exact List.mem_append_right _ List.mem_cons_self
  -- and no other entry has its identity
  have honly : ∀ entry ∈ (recency.insert identity token).entries, entry.1 = identity →
      entry = (identity, token) := by
    intro entry hentry hsame
    obtain ⟨front, hfront⟩ := exists_fit recency.capacity
      (recency.entries.filter (fun entry => entry.1 ≠ identity) ++ [(identity, token)])
    have hentry := hfront ▸ List.mem_append_right front hentry
    rcases List.mem_append.mp hentry with hentry | hentry
    · exact absurd hsame (of_decide_eq_true (List.mem_filter.mp hentry).2)
    · exact List.mem_singleton.mp hentry
  have hsome : ((recency.insert identity token).entries.find? fun entry =>
      entry.1 = identity).isSome = true := List.find?_isSome.mpr ⟨_, hlast, by simp⟩
  obtain ⟨entry, hfound⟩ := Option.isSome_iff_exists.mp hsome
  have hsame : entry.1 = identity := by simpa using List.find?_some hfound
  rw [get?, hfound, honly entry (List.mem_of_find?_eq_some hfound) hsame]
  rfl

/-! ### Closing several scopes -/

namespace Shelf

/-- The identities that are registered with a scope; none if it is not open. -/
def registered {κ : Type} (shelf : Shelf κ) (number : Nat) : List Identity :=
  (shelf.scopes number).elim [] VersionScope.identities

theorem scopes_closing {κ : Type} [TokenKeeper κ] (shelf : Shelf κ) (number : Nat) :
    (shelf.closing number).scopes =
      fun other => if other = number then none else shelf.scopes other := by
  unfold closing
  cases hscope : shelf.scopes number with
  | some scope => rfl
  | none =>
    funext other
    by_cases hsame : other = number
    · rw [if_pos hsame, hsame]
      exact hscope
    · rw [if_neg hsame]

/-- Closing a scope drops the tokens that are registered with it. -/
theorem keeper_closing (shelf : Shelf VersionStore) (number : Nat) :
    (shelf.closing number).keeper =
      (shelf.registered number).foldl VersionStore.remove shelf.keeper := by
  unfold closing registered
  cases shelf.scopes number with
  | none => rfl
  | some scope => rfl

/-- Closing a scope leaves what is registered with another one. -/
theorem registered_closing {κ : Type} [TokenKeeper κ] (shelf : Shelf κ) {number other : Nat}
    (hne : other ≠ number) : (shelf.closing number).registered other = shelf.registered other := by
  unfold registered
  simp only [scopes_closing, if_neg hne]

/-- Two scopes may be closed in either order. -/
theorem closing_comm (shelf : Shelf VersionStore) (a b : Nat) :
    (shelf.closing a).closing b = (shelf.closing b).closing a := by
  by_cases hsame : a = b
  · rw [hsame]
  apply Shelf.ext
  · rw [keeper_closing, keeper_closing, keeper_closing, keeper_closing,
      registered_closing shelf (Ne.symm hsame), registered_closing shelf hsame,
      VersionStore.foldl_remove, VersionStore.foldl_remove, VersionStore.foldl_remove,
      VersionStore.foldl_remove]
    simp only [List.filter_filter, Bool.and_comm]
  · funext other
    simp only [scopes_closing]
    by_cases ha : other = a <;> by_cases hb : other = b <;> simp [ha, hb]

/-- So may any number of scopes. -/
theorem run_closeScopes_of_perm (shelf : Shelf VersionStore) {numbers others : List Nat}
    (hperm : numbers.Perm others) :
    shelf.run (numbers.map .closeScope) = shelf.run (others.map .closeScope) := by
  have hrun : ∀ numbers : List Nat,
      shelf.run (numbers.map .closeScope) = numbers.foldl closing shelf :=
    fun numbers => List.foldl_map
  rw [hrun, hrun]
  exact hperm.foldl_eq' (fun a _ b _ shelf => closing_comm shelf a b) shelf

end Shelf

/-- **A version store is a list by last insertion.**  Whatever a program does with a store and with
    scopes, all answers are those of a list of distinct identities in which an insertion puts its
    identity at the end and drops from the front what is beyond the bound.  So a store never holds
    more than its bound; an insertion drops an identity only if every identity that stays was
    inserted since that one was inserted last; a token that was just inserted is there, unless
    there is room for none; and scopes may be closed in any order. -/
theorem answers_of_list_by_last_insertion (capacity : Option Nat) (actions : List TokenAction) :
    let stored := Shelf.start (VersionStore.empty capacity)
    let listed := Shelf.start (Recency.empty capacity)
    let store := (stored.run actions).keeper
    let newest := stored.insertions [] actions
    stored.answers actions = listed.answers actions ∧
    ((listed.run actions).keeper.entries.map (·.1)).Nodup ∧
    InOrder newest (listed.run actions).keeper.entries ∧
    (∀ bound, capacity = some bound → store.size ≤ bound) ∧
    (∀ identity token dropped, store.contains dropped = true →
      (store.insert identity token).contains dropped = false →
      ∀ kept, (store.insert identity token).contains kept = true →
        InsertedSince (identity :: newest) dropped kept) ∧
    (capacity ≠ some 0 → ∀ identity token,
      (store.insert identity token).get? identity = some token) ∧
    ∀ numbers others : List Nat, numbers.Perm others →
      (stored.run actions).run (numbers.map .closeScope) =
        (stored.run actions).run (others.map .closeScope) := by
  intro stored listed store newest
  have hstart : stored.AreAlike listed := ⟨.empty capacity, rfl⟩
  obtain ⟨hanswers, halike⟩ := hstart.run actions
  have hkept : Recency.Kept capacity newest (listed.run actions).keeper := by
    have hrun : Recency.Kept capacity (listed.insertions [] actions)
        (listed.run actions).keeper := (Recency.Kept.start capacity).run actions
    rwa [← hstart.insertions] at hrun
  refine ⟨hanswers, ?_, hkept.order, ?_, ?_, ?_, ?_⟩
  · obtain ⟨sorted, hsorts, hentries⟩ := halike.keepers.sorted
    rw [hentries, List.map_map, List.nodup_iff_pairwise_ne, List.pairwise_map]
    exact VersionStore.apart_of_perm halike.keepers.apart hsorts.perm
  · intro bound hbound
    rw [halike.keepers.size_eq]
    exact hkept.room bound hbound
  · intro identity token dropped hbefore hafter kept hstays
    rw [halike.keepers.contains_eq] at hbefore
    rw [(halike.keepers.insert identity token).contains_eq] at hafter hstays
    exact Recency.insertedSince_of_dropped hkept.order hbefore hafter hstays
  · intro hroom identity token
    rw [(halike.keepers.insert identity token).get?_eq]
    exact Recency.get?_insert_self _ (hkept.bounded ▸ hroom) identity token
  · intro numbers others hperm
    exact Shelf.run_closeScopes_of_perm _ hperm

/-! ### A token that is inserted again -/

/-- A contact. -/
def contactIdentity (id : String) : Identity :=
  ⟨"Contact", id⟩

/-- Two tokens are inserted, and then the first one again through a scope. -/
def insertedAgain : List TokenAction :=
  [.insert (contactIdentity "1") "a", .insert (contactIdentity "2") "b", .openScope 0,
    .insertThrough 0 (contactIdentity "1") "c"]

/-- Where there is room for two, the second one has to go when a third one comes. -/
theorem second_token_is_dropped :
    let store := ((Shelf.start (VersionStore.empty (some 2))).run insertedAgain).keeper
    (store.insert (contactIdentity "3") "d").contains (contactIdentity "2") = false ∧
      InsertedSince ([contactIdentity "3", contactIdentity "1", contactIdentity "2",
        contactIdentity "1"]) (contactIdentity "2") (contactIdentity "1") := by
  intro store
  have hdropped : (store.insert (contactIdentity "3") "d").contains (contactIdentity "2") = false :=
    by decide
  obtain ⟨-, -, -, -, holdest, -, -⟩ := answers_of_list_by_last_insertion (some 2) insertedAgain
  exact ⟨hdropped, holdest (contactIdentity "3") "d" (contactIdentity "2") (by decide) hdropped
    (contactIdentity "1") (by decide)⟩

end ResourceFeed
