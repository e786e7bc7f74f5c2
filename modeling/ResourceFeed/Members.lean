/-! # Named members

    The members of a record or of a JSON object: names with their values, each
    name once, in ascending order of the names.  Text is ordered by code point,
    which is also the order of its UTF-8 bytes.

    A list of pairs is turned into members by inserting one pair after the
    other, so that of two equal names the later one counts.  Every operation
    keeps the names `Ordered`, and `get?` sees what `insert` put there.
-/

namespace ResourceFeed

/-- Names with their values, in ascending order of the names. -/
abbrev Members (α : Type) := List (String × α)

namespace Members

/-- Whether the names ascend, so that none occurs twice. -/
def Ordered (members : Members α) : Prop :=
  members.Pairwise fun a b => a.1 < b.1

/-- The value under a name. -/
def get? (name : String) : Members α → Option α
  | [] => none
  | (other, value) :: rest => if name = other then some value else get? name rest

/-- Sets the value under a name. -/
def insert (name : String) (value : α) : Members α → Members α
  | [] => [(name, value)]
  | (other, old) :: rest =>
    if name < other then (name, value) :: (other, old) :: rest
    else if name = other then (name, value) :: rest
    else (other, old) :: insert name value rest

/-- The members of a list of pairs; of two equal names the later one counts. -/
def ofList (pairs : List (String × α)) : Members α :=
  pairs.foldl (fun members pair => insert pair.1 pair.2 members) []

/-- The names, in order. -/
def names (members : Members α) : List String :=
  members.map (·.1)

/-! ## Laws -/

theorem get?_insert (name other : String) (value : α) (members : Members α) :
    get? other (insert name value members)
      = if other = name then some value else get? other members := by
  induction members with
  | nil => simp [insert, get?]
  | cons member rest ih =>
    obtain ⟨first, old⟩ := member
    simp only [insert]
    split
    · simp [get?]
    · split
      · rename_i h
        subst h
        by_cases h : other = name <;> simp [get?, h]
      · by_cases h : other = first
        · subst h
          rename_i hne
          simp [get?, Ne.symm hne]
        · simp [get?, h, ih]

/-- Of the pairs with a name the last one is found under it. -/
theorem get?_ofList (name : String) (pairs : List (String × α)) :
    get? name (ofList pairs) = ((pairs.filter fun pair => name = pair.1).getLast?).map (·.2) := by
  have hfold : ∀ members : Members α,
      get? name (pairs.foldl (fun members pair => insert pair.1 pair.2 members) members)
        = (((pairs.filter fun pair => name = pair.1).getLast?).map (·.2)).or
            (get? name members) := by
    induction pairs with
    | nil => exact fun _ => rfl
    | cons pair rest ih =>
      intro members
      rw [List.foldl_cons, ih, get?_insert]
      by_cases h : name = pair.1
      · have hfilter : (pair :: rest).filter (fun pair => name = pair.1)
            = pair :: rest.filter fun pair => name = pair.1 :=
          List.filter_cons_of_pos (decide_eq_true h)
        rw [if_pos h, hfilter, List.getLast?_cons]
        -- the pair itself counts if no later one has the name
        cases (rest.filter fun pair => name = pair.1).getLast? <;> rfl
      · rw [if_neg h, List.filter_cons_of_neg (by simp [h])]
  rw [ofList, hfold]
  exact Option.or_none

/-- Among the members whose names are kept, those are found that were there. -/
theorem get?_filter (keep : String → Bool) (name : String) (members : Members α) :
    get? name (members.filter fun member => keep member.1)
      = if keep name then get? name members else none := by
  induction members with
  | nil => simp [get?]
  | cons member rest ih =>
    obtain ⟨other, value⟩ := member
    by_cases hsame : name = other
    · subst hsame
      cases hkeep : keep name with
      | true => simp [get?, hkeep]
      | false => simp [hkeep, ih]
    · have hrest : get? name ((other, value) :: rest) = get? name rest := if_neg hsame
      rw [hrest, ← ih]
      cases hkeep : keep other with
      | true => simp [get?, hkeep, hsame]
      | false => simp [hkeep]

theorem mem_insert {name : String} {value : α} {members : Members α} {member : String × α}
    (h : member ∈ insert name value members) : member = (name, value) ∨ member ∈ members := by
  induction members with
  | nil => simpa [insert] using h
  | cons first rest ih =>
    simp only [insert] at h
    split at h
    · simpa using h
    · split at h
      · rcases List.mem_cons.mp h with h | h
        · exact .inl h
        · exact .inr (List.mem_cons_of_mem _ h)
      · rcases List.mem_cons.mp h with h | h
        · exact .inr (h ▸ List.mem_cons_self)
        · exact (ih h).imp_right (List.mem_cons_of_mem _)

/-- Nothing comes in but what is inserted. -/
theorem mem_foldl_insert {pairs : List (String × α)} {start : Members α} {member : String × α}
    (h : member ∈ pairs.foldl (fun members pair => insert pair.1 pair.2 members) start) :
    member ∈ start ∨ member ∈ pairs := by
  induction pairs generalizing start with
  | nil => exact .inl h
  | cons pair rest ih =>
    rcases ih h with hinserted | hrest
    · rcases mem_insert hinserted with rfl | hstart
      · exact .inr List.mem_cons_self
      · exact .inl hstart
    · exact .inr (List.mem_cons_of_mem _ hrest)

theorem mem_of_mem_ofList {pairs : List (String × α)} {member : String × α}
    (h : member ∈ ofList pairs) : member ∈ pairs :=
  (mem_foldl_insert h).resolve_left List.not_mem_nil

theorem insert_ordered {name : String} {value : α} {members : Members α} (h : Ordered members) :
    Ordered (insert name value members) := by
  induction members with
  | nil => simp [Ordered, insert]
  | cons first rest ih =>
    obtain ⟨hfirst, hrest⟩ := List.pairwise_cons.mp h
    simp only [insert]
    split
    · rename_i hlt
      refine List.pairwise_cons.mpr ⟨fun member hmem => ?_, h⟩
      rcases List.mem_cons.mp hmem with hmem | hmem
      · exact hmem ▸ hlt
      · exact String.lt_trans hlt (hfirst member hmem)
    · split
      · rename_i heq
        exact List.pairwise_cons.mpr ⟨fun member hmem => heq ▸ hfirst member hmem, hrest⟩
      · rename_i hlt hne
        refine List.pairwise_cons.mpr ⟨fun member hmem => ?_, ih hrest⟩
        rcases mem_insert hmem with hmem | hmem
        · subst hmem
          exact Decidable.byContradiction fun hge =>
            hne (String.le_antisymm (String.not_lt.mp hge) (String.not_lt.mp hlt))
        · exact hfirst member hmem

theorem ofList_ordered (pairs : List (String × α)) : Ordered (ofList pairs) := by
  have keep : ∀ (pairs : List (String × α)) (members : Members α), Ordered members →
      Ordered (pairs.foldl (fun members pair => insert pair.1 pair.2 members) members) := by
    intro pairs
    induction pairs with
    | nil => exact fun _ h => h
    | cons pair rest ih => exact fun members h => ih _ (insert_ordered h)
  exact keep pairs [] List.Pairwise.nil

end Members

end ResourceFeed
