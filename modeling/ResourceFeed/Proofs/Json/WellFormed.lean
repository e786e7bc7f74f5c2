import ResourceFeed.Json.Printer
import ResourceFeed.Json.Reading

/-! # Well-formed JSON values

    A JSON value that was read is *well-formed*: its objects have each name
    once and in order, its integers fit 64 bits, and its arrays and objects
    nest no deeper than the reader allows.  What can be said of its
    floating-point numbers depends on where they come from, so this is a
    parameter.
-/

namespace ResourceFeed

/-! ### Ordered members -/

namespace Members

variable {α : Type}

/-- A name that no member has is not found. -/
theorem get?_of_ne {name : String} {members : Members α}
    (hother : ∀ member ∈ members, name ≠ member.1) : get? name members = none := by
  induction members with
  | nil => rfl
  | cons first rest ih =>
    obtain ⟨hfirst, hrest⟩ := List.forall_mem_cons.mp hother
    rw [get?, if_neg hfirst, ih hrest]

/-- What is found under a name is a member. -/
theorem mem_of_get? {name : String} {value : α} {members : Members α}
    (hfound : get? name members = some value) : (name, value) ∈ members := by
  induction members with
  | nil => cases hfound
  | cons first rest ih =>
    rw [get?] at hfound
    by_cases hname : name = first.1
    · rw [if_pos hname] at hfound
      cases hfound
      rw [hname]
      exact List.mem_cons_self
    · rw [if_neg hname] at hfound
      exact List.mem_cons_of_mem _ (ih hfound)

/-- A name before the first one is not found. -/
theorem get?_of_lt {name : String} {members : Members α}
    (hbefore : ∀ member ∈ members, name < member.1) : get? name members = none :=
  get?_of_ne fun member hmem => String.ne_of_lt (hbefore member hmem)

/-- Behind the first of ordered members its name is not found again. -/
theorem get?_rest {first : String × α} {rest : Members α} (hordered : Ordered (first :: rest)) :
    get? first.1 rest = none :=
  get?_of_lt (List.pairwise_cons.mp hordered).1

/-- The first name is not before another first name if the same is found in both. -/
theorem not_lt_of_same {first other : String × α} {rest others : Members α}
    (hothers : Ordered (other :: others))
    (hsame : ∀ name, get? name (first :: rest) = get? name (other :: others)) :
    ¬ first.1 < other.1 := by
  intro hlt
  have hbefore : ∀ member ∈ other :: others, first.1 < member.1 :=
    List.forall_mem_cons.mpr ⟨hlt, fun member hmem =>
      String.lt_trans hlt ((List.pairwise_cons.mp hothers).1 member hmem)⟩
  have hfound := hsame first.1
  rw [get?, if_pos rfl, get?_of_lt hbefore] at hfound
  cases hfound

/-- Ordered members are known by what is found in them. -/
theorem ext_of_ordered {members others : Members α} (hmembers : Ordered members)
    (hothers : Ordered others) (hsame : ∀ name, get? name members = get? name others) :
    members = others := by
  induction members generalizing others with
  | nil =>
    cases others with
    | nil => rfl
    | cons other rest =>
      have hfound := hsame other.1
      rw [get?, get?, if_pos rfl] at hfound
      cases hfound
  | cons first rest ih =>
    cases others with
    | nil =>
      have hfound := hsame first.1
      rw [get?, get?, if_pos rfl] at hfound
      cases hfound
    | cons other others =>
      -- neither of the two first names is before the other
      have hname : first.1 = other.1 :=
        String.le_antisymm (String.not_lt.mp (not_lt_of_same hmembers fun name => (hsame name).symm))
          (String.not_lt.mp (not_lt_of_same hothers hsame))
      have hfirst : first = other := by
        have hfound := hsame first.1
        rw [get?, if_pos rfl, get?, if_pos hname] at hfound
        exact Prod.ext hname (Option.some.inj hfound)
      have hrest : rest = others := by
        refine ih (List.pairwise_cons.mp hmembers).2 (List.pairwise_cons.mp hothers).2 ?_
        intro name
        by_cases hsought : name = first.1
        · rw [hsought, get?_rest hmembers, hname, get?_rest hothers]
        · have hfound := hsame name
          rw [get?, if_neg hsought, get?, if_neg (hname ▸ hsought)] at hfound
          exact hfound
      rw [hfirst, hrest]

/-- Ordered members put into others are found there, beside what was there before. -/
theorem get?_foldl_insert {members start : Members α} (hordered : Ordered members) (name : String) :
    get? name (members.foldl (fun all member => insert member.1 member.2 all) start) =
      (get? name members).or (get? name start) := by
  induction members generalizing start with
  | nil => rfl
  | cons first rest ih =>
    rw [List.foldl_cons, ih (List.pairwise_cons.mp hordered).2, get?_insert, get?]
    by_cases hname : name = first.1
    · rw [if_pos hname, if_pos hname, hname, get?_rest hordered]
      rfl
    · rw [if_neg hname, if_neg hname]

theorem ordered_foldl_insert {pairs : List (String × α)} {start : Members α}
    (hstart : Ordered start) :
    Ordered (pairs.foldl (fun all pair => insert pair.1 pair.2 all) start) := by
  induction pairs generalizing start with
  | nil => exact hstart
  | cons pair rest ih => exact ih (insert_ordered hstart)

/-- Ordered members are the members of themselves as a list. -/
theorem ofList_of_ordered {members : Members α} (hordered : Ordered members) :
    ofList members = members := by
  refine ext_of_ordered (ofList_ordered members) hordered fun name => ?_
  rw [ofList, get?_foldl_insert hordered]
  exact Option.or_none

end Members

/-! ### Well-formed values -/

namespace Json

mutual

/-- A value as the reader makes them, with floating-point numbers of some sort: members are
    ordered, integers fit 64 bits, and arrays and objects nest at most `depth` deep. -/
def WellFormed (floats : Float → Prop) (depth : Nat) : Json → Prop
  | .null | .bool _ | .text _ => True
  | .integer value => -9223372036854775808 ≤ value ∧ value < limitUInt64
  | .float value => floats value
  | .array items =>
    match depth with
    | 0 => False
    | depth + 1 => WellFormedItems floats depth items
  | .object members =>
    match depth with
    | 0 => False
    | depth + 1 => Members.Ordered members ∧ WellFormedMembers floats depth members

/-- All items are well-formed. -/
def WellFormedItems (floats : Float → Prop) (depth : Nat) : List Json → Prop
  | [] => True
  | item :: rest => WellFormed floats depth item ∧ WellFormedItems floats depth rest

/-- All members are well-formed. -/
def WellFormedMembers (floats : Float → Prop) (depth : Nat) : List (String × Json) → Prop
  | [] => True
  | (_, value) :: rest => WellFormed floats depth value ∧ WellFormedMembers floats depth rest

end

section wellFormed
variable {floats : Float → Prop} {depth : Nat}

theorem wellFormedItems_iff {items : List Json} :
    WellFormedItems floats depth items ↔ ∀ item ∈ items, WellFormed floats depth item := by
  induction items with
  | nil => simp [WellFormedItems]
  | cons item rest ih => rw [WellFormedItems, ih, List.forall_mem_cons]

theorem wellFormedMembers_iff {members : List (String × Json)} :
    WellFormedMembers floats depth members ↔
      ∀ member ∈ members, WellFormed floats depth member.2 := by
  induction members with
  | nil => simp [WellFormedMembers]
  | cons member rest ih => rw [WellFormedMembers, ih, List.forall_mem_cons]

end wellFormed

/-! ### What is read is well-formed -/

/-- Digits are only collected as long as they fit. -/
theorem collect_lt {significand : Nat} (hfits : significand < limitUInt64) (digits : List Char) :
    (collect significand digits).1 < limitUInt64 := by
  induction digits generalizing significand with
  | nil => exact hfits
  | cons digit rest ih =>
    unfold collect
    simp only
    by_cases hnext : 10 * significand + (digit.toNat - 48) < limitUInt64
    · rw [if_pos hnext]
      exact ih hnext
    · rw [if_neg hnext]
      exact hfits

/-- Numbers are sorted out as the reader reads them. -/
def anyFloat : Float → Prop :=
  fun _ => True

theorem wellFormed_of_toJson? {numeral : Numeral} {json : Json} (depth : Nat)
    (hread : numeral.toJson? = some json) : json.WellFormed anyFloat depth := by
  have hwhole : (collect 0 numeral.whole).1 < limitUInt64 := collect_lt (by decide) numeral.whole
  unfold Numeral.toJson? at hread
  rcases hcollected : collect 0 numeral.whole with ⟨whole, beyond⟩
  rw [hcollected] at hwhole hread
  simp only at hwhole hread
  split at hread
  · cases hread
    exact ⟨by omega, by omega⟩
  · split at hread
    · rename_i hnegative
      cases hread
      obtain ⟨-, hfits⟩ := Bool.and_eq_true_iff.mp hnegative
      obtain ⟨hlow, hhigh⟩ := of_decide_eq_true hfits
      exact ⟨hlow, by omega⟩
    · obtain ⟨size, -, rfl⟩ := Option.map_eq_some_iff.mp hread
      exact trivial

mutual

/-- The value of a draft is well-formed. -/
theorem wellFormed_of_ofDraft? : ∀ (draft : Draft) {depth : Nat} {json : Json},
    ofDraft? depth draft = some json → json.WellFormed anyFloat depth
  | .word .null, _, _, hread => by
    cases hread
    exact trivial
  | .word .true, _, _, hread => by
    cases hread
    exact trivial
  | .word .false, _, _, hread => by
    cases hread
    exact trivial
  | .numeral numeral, depth, _, hread => wellFormed_of_toJson? depth hread
  | .string parts, _, _, hread => by
    obtain ⟨text, -, rfl⟩ := Option.map_eq_some_iff.mp hread
    exact trivial
  | .array items, depth, _, hread => by
    cases depth with
    | zero => cases hread
    | succ depth =>
      obtain ⟨values, hvalues, rfl⟩ := Option.map_eq_some_iff.mp hread
      exact wellFormedItems_iff.mpr (wellFormed_of_itemsOfDrafts? items hvalues)
  | .object members, depth, _, hread => by
    cases depth with
    | zero => cases hread
    | succ depth =>
      obtain ⟨pairs, hpairs, rfl⟩ := Option.map_eq_some_iff.mp hread
      refine ⟨Members.ofList_ordered pairs, wellFormedMembers_iff.mpr fun member hmem => ?_⟩
      -- every member was one of the pairs
      exact wellFormed_of_pairsOfDrafts? members hpairs member (Members.mem_of_mem_ofList hmem)

theorem wellFormed_of_itemsOfDrafts? : ∀ (drafts : List Draft) {depth : Nat} {items : List Json},
    itemsOfDrafts? depth drafts = some items → ∀ item ∈ items, item.WellFormed anyFloat depth
  | [], _, _, hread => by
    cases hread
    exact List.forall_mem_nil _
  | draft :: rest, _, _, hread => by
    obtain ⟨item, hitem, hread⟩ := Option.bind_eq_some_iff.mp hread
    obtain ⟨items, hitems, hread⟩ := Option.bind_eq_some_iff.mp hread
    cases hread
    exact List.forall_mem_cons.mpr
      ⟨wellFormed_of_ofDraft? draft hitem, wellFormed_of_itemsOfDrafts? rest hitems⟩

theorem wellFormed_of_pairsOfDrafts? : ∀ (drafts : List (List StringPart × Draft)) {depth : Nat}
    {pairs : List (String × Json)}, pairsOfDrafts? depth drafts = some pairs →
    ∀ pair ∈ pairs, pair.2.WellFormed anyFloat depth
  | [], _, _, hread => by
    cases hread
    exact List.forall_mem_nil _
  | (name, draft) :: rest, _, _, hread => by
    obtain ⟨name, -, hread⟩ := Option.bind_eq_some_iff.mp hread
    obtain ⟨value, hvalue, hread⟩ := Option.bind_eq_some_iff.mp hread
    obtain ⟨pairs, hpairs, hread⟩ := Option.bind_eq_some_iff.mp hread
    cases hread
    exact List.forall_mem_cons.mpr
      ⟨wellFormed_of_ofDraft? draft hvalue, wellFormed_of_pairsOfDrafts? rest hpairs⟩

end

/-- The value of a text is well-formed. -/
theorem wellFormed_of_ofText? {text : String} {json : Json} (hread : ofText? text = some json) :
    json.WellFormed anyFloat depthLimit := by
  obtain ⟨draft, -, hdraft⟩ := Option.bind_eq_some_iff.mp hread
  exact wellFormed_of_ofDraft? draft hdraft

theorem wellFormed_of_ofBytes? {bytes : Text.Bytes} {json : Json}
    (hread : ofBytes? bytes = some json) : json.WellFormed anyFloat depthLimit := by
  obtain ⟨text, -, htext⟩ := Option.bind_eq_some_iff.mp hread
  exact wellFormed_of_ofText? htext

end Json

end ResourceFeed
