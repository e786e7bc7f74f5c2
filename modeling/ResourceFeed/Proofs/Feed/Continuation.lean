import Mathlib
import ResourceFeed.Feed.Entry
import ResourceFeed.Query.Run

/-! # Where the next page starts

    A page that does not say where the next one is found may count: the
    position that it starts from, the resources that fit on it, and all
    resources.  The next page then starts from the sum of the first two, if
    the total goes that far.

    These numbers come from the server, each has a meaning of its own if it is
    missing, and their sum is taken in 64 bits.  So the next page need not
    start behind its predecessor: it does so if something fits on a page and
    the sum fits 64 bits, and only then.
-/

namespace ResourceFeed.Page

/-! ### The numbers of a page -/

/-- A number that a page gives under a name. -/
def given? (members : Members Json) (name : String) : Option Nat :=
  (Members.get? name members).bind Json.uint64?

/-- The position that a page starts from. -/
def position (members : Members Json) : Nat :=
  (given? members "$startIndex").getD 1

/-- How many resources fit on a page; as many as it has, if it does not say. -/
def room (members : Members Json) (returned : Nat) : Nat :=
  (given? members "$itemsPerPage").getD (returned % limitUInt64)

/-- The position behind a page, in 64 bits. -/
def behind (members : Members Json) (returned : Nat) : Nat :=
  (position members + room members returned) % limitUInt64

section numbers
variable {members : Members Json} {name : String} {n : Nat}

theorem lt_of_uint64? {json : Json} (h : json.uint64? = some n) : n < limitUInt64 := by
  cases json with
  | integer value =>
    unfold Json.uint64? at h
    simp only at h
    split at h
    · rename_i hfits
      cases h
      omega
    · cases h
  | null => cases h
  | bool value => cases h
  | float value => cases h
  | text value => cases h
  | array items => cases h
  | object members => cases h

theorem lt_of_given? (h : given? members name = some n) : n < limitUInt64 := by
  obtain ⟨json, -, hn⟩ := Option.bind_eq_some_iff.mp h
  exact lt_of_uint64? hn

theorem count?_eq (members : Members Json) (name : String) :
    count? members name = (given? members name).map UInt64.ofNat := rfl

/-- A number that is counted with is the one that is given. -/
theorem toNat_count? (members : Members Json) (name : String) (otherwise : UInt64) :
    ((count? members name).getD otherwise).toNat =
      (given? members name).getD otherwise.toNat := by
  rw [count?_eq]
  cases h : given? members name with
  | none => rfl
  | some n => exact UInt64.toNat_ofNat_of_lt' (lt_of_given? h)

theorem position_lt (members : Members Json) : position members < limitUInt64 := by
  unfold position
  cases h : given? members "$startIndex" with
  | none => decide
  | some n => exact lt_of_given? h

theorem room_lt (members : Members Json) (returned : Nat) :
    room members returned < limitUInt64 := by
  unfold room
  cases h : given? members "$itemsPerPage" with
  | none => exact Nat.mod_lt _ (by decide)
  | some n => exact lt_of_given? h

end numbers

/-! ### The position behind a page -/

/-- There is a next page if there is anything on this one and the total goes beyond it. -/
theorem nextStart?_eq (members : Members Json) (returned : Nat) :
    (nextStart? members returned).map UInt64.toNat =
      if returned = 0 then none
      else (given? members "$totalResults").bind fun total =>
        if behind members returned ≤ total then some (behind members returned) else none := by
  have hstart : ((count? members "$startIndex").getD 1).toNat = position members :=
    toNat_count? members _ 1
  have hroom : ((count? members "$itemsPerPage").getD (UInt64.ofNat returned)).toNat =
      room members returned := toNat_count? members _ _
  unfold nextStart?
  by_cases hempty : returned = 0
  · rw [if_pos hempty, if_pos hempty]
    rfl
  rw [if_neg hempty, if_neg hempty, count?_eq]
  cases htotal : given? members "$totalResults" with
  | none => rfl
  | some total =>
    have hword : (UInt64.ofNat total).toNat = total :=
      UInt64.toNat_ofNat_of_lt' (lt_of_given? htotal)
    -- the sum of words is the sum of their numbers in 64 bits
    have hsum : ((count? members "$startIndex").getD 1 +
        (count? members "$itemsPerPage").getD (UInt64.ofNat returned)).toNat =
          behind members returned := by
      rw [UInt64.toNat_add, hstart, hroom]
      rfl
    have hreach : (count? members "$startIndex").getD 1 +
        (count? members "$itemsPerPage").getD (UInt64.ofNat returned) ≤ UInt64.ofNat total ↔
          behind members returned ≤ total := by
      rw [UInt64.le_iff_toNat_le, hsum, hword]
    simp only [Option.map_some, Option.bind_some]
    by_cases hbefore : behind members returned ≤ total
    · rw [if_pos (hreach.mpr hbefore), if_pos hbefore, Option.map_some, hsum]
    · rw [if_neg fun h => hbefore (hreach.mp h), if_neg hbefore]
      rfl

theorem nextStart?_eq_some_iff {members : Members Json} {returned start : Nat} :
    (nextStart? members returned).map UInt64.toNat = some start ↔
      returned ≠ 0 ∧
        (∃ total, given? members "$totalResults" = some total ∧
          behind members returned ≤ total) ∧
        start = behind members returned := by
  rw [nextStart?_eq]
  by_cases hempty : returned = 0
  · simp [hempty]
  rw [if_neg hempty, Option.bind_eq_some_iff]
  constructor
  · rintro ⟨total, htotal, h⟩
    obtain ⟨hreach, h⟩ := Option.ite_none_right_eq_some.mp h
    exact ⟨hempty, ⟨total, htotal, hreach⟩, (Option.some.inj h).symm⟩
  · rintro ⟨-, ⟨total, htotal, hreach⟩, rfl⟩
    exact ⟨total, htotal, if_pos hreach⟩

/-- The position behind a page is greater than its own unless nothing fits on it or the sum goes
    beyond 64 bits. -/
theorem position_lt_behind_iff (members : Members Json) (returned : Nat) :
    position members < behind members returned ↔
      0 < room members returned ∧ position members + room members returned < limitUInt64 := by
  have hposition := position_lt members
  have hroom := room_lt members returned
  unfold behind
  rcases Nat.lt_or_ge (position members + room members returned) limitUInt64 with hfits | hwraps
  · rw [Nat.mod_eq_of_lt hfits]
    omega
  · -- beyond the limit the sum begins again, and both numbers are below the limit
    rw [Nat.mod_eq_sub_mod hwraps, Nat.mod_eq_of_lt (by omega)]
    omega

/-- What a page without a link of its own is followed by. -/
theorem nextLink?_eq {members : Members Json}
    (hunlinked : (Members.get? "$next" members).bind Json.text? = none) (returned : Nat)
    (address : String) :
    nextLink? members returned address =
      ((nextStart? members returned).map UInt64.toNat).map fun start =>
        Address.setParameter address "startIndex" (toString start) := by
  unfold nextLink?
  rw [hunlinked, Option.map_map]
  rfl

/-- The document in a body of characters below 128. -/
theorem document_of_text {text : String} {json : Json}
    (hascii : text.toList.all fun c => c.toNat < 0x80) (hjson : Json.ofText? text = some json) :
    document (Text.asciiBytes text) = .ok json := by
  rw [document, Json.ofBytes?_asciiBytes hascii, hjson]

/-- The page in a body whose members are known. -/
theorem decode_eq {body : Text.Bytes} {members : Members Json}
    (hdocument : document body = .ok (.object members)) (address : String) :
    decode body address = (entriesOfMembers members).map fun entries =>
      ⟨entries, nextLink? members entries.length address, given? members "$totalResults"⟩ := by
  unfold decode
  rw [hdocument]
  show (entriesOfMembers members >>= _) = _
  cases entriesOfMembers members with
  | error failure => rfl
  | ok entries => rfl

/-- **Where a counted page is followed up**: a page that has no link of its own is followed by
    another one exactly if it has entries and the position behind it is at most the total; that
    position is what is asked for then.  It is greater than the position of the page if and only if
    something fits on the page and the sum of the two numbers fits 64 bits. -/
theorem counted_continuation {body : Text.Bytes} {address : String} {page : Page}
    {members : Members Json} (hdocument : document body = .ok (.object members))
    (hpage : decode body address = .ok page)
    (hunlinked : (Members.get? "$next" members).bind Json.text? = none) :
    let start := position members
    let size := room members page.entries.length
    let following := (start + size) % limitUInt64
    (∀ next, page.next = some next ↔
      page.entries ≠ [] ∧ (∃ total, page.totalResults = some total ∧ following ≤ total) ∧
        next = Address.setParameter address "startIndex" (toString following)) ∧
      (start < following ↔ 0 < size ∧ start + size < limitUInt64) := by
  intro start size following
  obtain ⟨hnext, htotal⟩ : page.next = nextLink? members page.entries.length address ∧
      page.totalResults = given? members "$totalResults" := by
    rw [decode_eq hdocument] at hpage
    cases hentries : entriesOfMembers members with
    | error failure =>
      rw [hentries] at hpage
      cases hpage
    | ok entries =>
      rw [hentries] at hpage
      cases hpage
      exact ⟨rfl, rfl⟩
  refine ⟨?_, position_lt_behind_iff members page.entries.length⟩
  intro next
  rw [hnext, nextLink?_eq hunlinked, Option.map_eq_some_iff, htotal]
  constructor
  · rintro ⟨start, hstart, rfl⟩
    obtain ⟨hreturned, hreach, rfl⟩ := nextStart?_eq_some_iff.mp hstart
    exact ⟨List.ne_nil_of_length_pos (Nat.pos_of_ne_zero hreturned), hreach, rfl⟩
  · rintro ⟨hentries, hreach, rfl⟩
    have hreturned : page.entries.length ≠ 0 := fun h => hentries (List.eq_nil_of_length_eq_zero h)
    exact ⟨following, nextStart?_eq_some_iff.mpr ⟨hreturned, hreach, rfl⟩, rfl⟩

/-! ### A page that moves on, and pages that do not -/

namespace Counting

/-- The address that the pages are read from. -/
def address : String := "https://x/sdata/-/contacts"

/-- Two of five resources. -/
def firstTwo : String :=
  "\x7b\"$itemsPerPage\":2,\"$resources\":[\x7b\x7d,\x7b\x7d],"
    ++ "\"$startIndex\":1,\"$totalResults\":5\x7d"

/-- A page of five resources on which nothing should fit. -/
def noRoom : String :=
  "\x7b\"$itemsPerPage\":0,\"$resources\":[\x7b\x7d],"
    ++ "\"$startIndex\":1,\"$totalResults\":5\x7d"

/-- A page at the greatest position that there is. -/
def farthest : String :=
  "\x7b\"$itemsPerPage\":2,\"$resources\":[\x7b\x7d],"
    ++ "\"$startIndex\":18446744073709551615,\"$totalResults\":18446744073709551615\x7d"

/-- The members of such a page. -/
def members (perPage returned start total : Nat) : Members Json :=
  [("$itemsPerPage", .integer perPage),
    ("$resources", .array (List.replicate returned (.object []))),
    ("$startIndex", .integer start), ("$totalResults", .integer total)]

theorem document_firstTwo :
    document (Text.asciiBytes firstTwo) = .ok (.object (members 2 2 1 5)) :=
  document_of_text (by decide) (by cbv)

theorem document_noRoom :
    document (Text.asciiBytes noRoom) = .ok (.object (members 0 1 1 5)) :=
  document_of_text (by decide) (by cbv)

set_option maxRecDepth 4000 in
theorem document_farthest :
    document (Text.asciiBytes farthest) = .ok (.object
      (members 2 1 18446744073709551615 18446744073709551615)) :=
  document_of_text (by decide) (by cbv)

/-- The page after the first two resources starts at the third. -/
theorem third_follows_firstTwo :
    document (Text.asciiBytes firstTwo) = .ok (.object (members 2 2 1 5)) ∧
      (Members.get? "$next" (members 2 2 1 5)).bind Json.text? = none ∧
      ∃ page, decode (Text.asciiBytes firstTwo) address = .ok page ∧
        page.next = some "https://x/sdata/-/contacts?startIndex=3" ∧
        position (members 2 2 1 5) < 3 := by
  have hunlinked : (Members.get? "$next" (members 2 2 1 5)).bind Json.text? = none := by decide
  refine ⟨document_firstTwo, hunlinked, _, decode_eq document_firstTwo address, ?_⟩
  have hpage := decode_eq document_firstTwo address
  obtain ⟨hnext, hahead⟩ := counted_continuation document_firstTwo hpage hunlinked
  refine ⟨(hnext _).mpr ⟨List.cons_ne_nil _ _, ⟨5, rfl, ?_⟩, ?_⟩, hahead.mpr ?_⟩
  · exact (by decide : (1 + 2) % limitUInt64 ≤ 5)
  · rfl
  · exact (by decide : 0 < 2 ∧ 1 + 2 < limitUInt64)

/-- A page on which nothing fits is followed by itself, and the farthest page by the first one. -/
theorem pages_without_progress :
    (∃ page, document (Text.asciiBytes noRoom) = .ok (.object (members 0 1 1 5)) ∧
      decode (Text.asciiBytes noRoom) address = .ok page ∧
      position (members 0 1 1 5) = 1 ∧
      page.next = some "https://x/sdata/-/contacts?startIndex=1") ∧
    ∃ page, document (Text.asciiBytes farthest) = .ok (.object
        (members 2 1 18446744073709551615 18446744073709551615)) ∧
      decode (Text.asciiBytes farthest) address = .ok page ∧
      position (members 2 1 18446744073709551615 18446744073709551615) =
        18446744073709551615 ∧
      page.next = some "https://x/sdata/-/contacts?startIndex=1" :=
  ⟨⟨_, document_noRoom, decode_eq document_noRoom address, rfl, by decide⟩,
    ⟨_, document_farthest, decode_eq document_farthest address, rfl, by decide⟩⟩

end Counting

end ResourceFeed.Page
