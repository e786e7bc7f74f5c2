import ResourceFeed.Version.Store

/-! # Looking versions up

    What a store answers after an insertion.  A bounded store may have dropped
    the token of any identity, the inserted one included, but it never answers
    with a token that was replaced, nor with one of another identity.
-/

namespace ResourceFeed.VersionStore

/-- The slot of an identity in a list of slots. -/
def find? (slots : List VersionSlot) (identity : Identity) : Option VersionSlot :=
  slots.find? fun slot => slot.identity = identity

theorem find?_cons (slot : VersionSlot) (slots : List VersionSlot) (identity : Identity) :
    find? (slot :: slots) identity =
      if slot.identity = identity then some slot else find? slots identity := by
  unfold find?
  rw [List.find?_cons]
  by_cases h : slot.identity = identity <;> simp [h]

/-- Dropping an identity drops its slot and no other. -/
theorem find?_filter_ne (slots : List VersionSlot) (dropped identity : Identity) :
    find? (slots.filter fun slot => slot.identity ≠ dropped) identity =
      if identity = dropped then none else find? slots identity := by
  induction slots with
  | nil => simp [find?]
  | cons slot rest ih =>
    by_cases hdropped : slot.identity = dropped
    · rw [List.filter_cons_of_neg (by simp [hdropped]), ih, find?_cons, hdropped]
      by_cases h : identity = dropped
      · rw [if_pos h, if_pos h]
      · rw [if_neg h, if_neg h, if_neg (Ne.symm h)]
    · rw [List.filter_cons_of_pos (by simp [hdropped]), find?_cons, ih, find?_cons]
      by_cases hslot : slot.identity = identity
      · have h : ¬ identity = dropped := fun h => hdropped (hslot.trans h)
        rw [if_pos hslot, if_neg h, if_pos hslot]
      · rw [if_neg hslot, if_neg hslot]

/-- A slot that was put in place of another is found, and no other is affected. -/
theorem find?_put (slot : VersionSlot) (slots : List VersionSlot) (identity : Identity) :
    find? (put slot slots) identity =
      if slot.identity = identity then some slot else find? slots identity := by
  induction slots with
  | nil => rw [put, find?_cons]
  | cons other rest ih =>
    rw [put]
    by_cases hother : other.identity = slot.identity
    · rw [if_pos hother, find?_cons]
      by_cases h : slot.identity = identity
      · rw [if_pos h, if_pos h]
      · rw [if_neg h, if_neg h, find?_cons, hother, if_neg h]
    · rw [if_neg hother, find?_cons, ih]
      by_cases h : slot.identity = identity
      · have hne : ¬ other.identity = identity := fun h' => hother (h'.trans h.symm)
        rw [if_pos h, if_pos h, if_neg hne]
      · rw [if_neg h, if_neg h, find?_cons]

/-! ### Eviction -/

theorem find?_dropOldest (slots : List VersionSlot) (identity : Identity) :
    find? (dropOldest slots) identity = none ∨
      find? (dropOldest slots) identity = find? slots identity := by
  cases slots with
  | nil => exact .inr rfl
  | cons first rest =>
    rw [dropOldest, find?_filter_ne]
    by_cases h : identity = (rest.foldl earlier first).identity
    · exact .inl (if_pos h)
    · exact .inr (if_neg h)

theorem find?_dropOldestTimes (times : Nat) (slots : List VersionSlot) (identity : Identity) :
    find? (dropOldestTimes times slots) identity = none ∨
      find? (dropOldestTimes times slots) identity = find? slots identity := by
  induction times generalizing slots with
  | zero => exact .inr rfl
  | succ times ih =>
    rw [dropOldestTimes]
    rcases ih (dropOldest slots) with h | h
    · exact .inl h
    · rw [h]
      exact find?_dropOldest slots identity

/-- Eviction drops slots and changes none. -/
theorem find?_evict (capacity : Option Nat) (slots : List VersionSlot) (identity : Identity) :
    find? (evict capacity slots) identity = none ∨
      find? (evict capacity slots) identity = find? slots identity := by
  cases capacity with
  | none => exact .inr rfl
  | some capacity => exact find?_dropOldestTimes _ slots identity

/-! ### Insertion -/

/-- The token under an identity after an insertion: dropped, or the inserted
    one for the identity it was inserted under and the former one for any other. -/
theorem get?_insert (store : VersionStore) (inserted identity : Identity) (token : String) :
    (store.insert inserted token).get? identity = none ∨
      (store.insert inserted token).get? identity =
        if inserted = identity then some token else store.get? identity := by
  show (find? (evict _ _) identity).map _ = none ∨ (find? (evict _ _) identity).map _ = _
  rcases find?_evict store.capacity (put ⟨inserted, token, store.sequence⟩ store.slots) identity
    with h | h
  · exact .inl (by rw [h]; rfl)
  · right
    rw [h, find?_put]
    by_cases hsame : inserted = identity
    · rw [if_pos hsame, if_pos hsame]
      rfl
    · rw [if_neg hsame, if_neg hsame]
      rfl

section lookup
variable {store : VersionStore} {inserted identity : Identity} {token found : String}

/-- If a token is found under the identity of an insertion, it is the inserted one. -/
theorem eq_of_get?_insert (h : (store.insert identity token).get? identity = some found) :
    found = token := by
  rcases get?_insert store identity identity token with hdropped | hset
  · rw [hdropped] at h
    cases h
  · rw [hset, if_pos rfl] at h
    exact (Option.some.inj h).symm

/-- If a token is found under any other identity, it was there before. -/
theorem get?_of_get?_insert (hne : inserted ≠ identity)
    (h : (store.insert inserted token).get? identity = some found) :
    store.get? identity = some found := by
  rcases get?_insert store inserted identity token with hdropped | hkept
  · rw [hdropped] at h
    cases h
  · rw [hkept, if_neg hne] at h
    exact h

end lookup

/-! ### Stores without a bound -/

/-- Without a bound nothing is dropped by an insertion. -/
theorem get?_insert_of_unbounded {store : VersionStore} (hunbounded : store.capacity = none)
    (inserted identity : Identity) (token : String) :
    (store.insert inserted token).get? identity =
      if inserted = identity then some token else store.get? identity := by
  show (find? (evict store.capacity _) identity).map _ = _
  rw [hunbounded, evict, find?_put]
  by_cases hsame : inserted = identity
  · rw [if_pos hsame, if_pos hsame]
    rfl
  · rw [if_neg hsame, if_neg hsame]
    rfl

/-- A removal drops one token and no other. -/
theorem get?_remove (store : VersionStore) (removed identity : Identity) :
    (store.remove removed).get? identity =
      if removed = identity then none else store.get? identity := by
  show (find? (store.slots.filter _) identity).map _ = _
  rw [find?_filter_ne]
  by_cases hsame : removed = identity
  · rw [if_pos hsame.symm, if_pos hsame]
    rfl
  · rw [if_neg (Ne.symm hsame), if_neg hsame]
    rfl

end ResourceFeed.VersionStore
