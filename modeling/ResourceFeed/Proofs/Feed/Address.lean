import ResourceFeed.Feed.Address
import ResourceFeed.Query.Target

/-! # Setting parameters of an address that has clauses

    The clauses of an address are joined by ampersands behind a question
    mark.  If the address has no question mark before them and no clause has
    an ampersand, the clauses are found again, and setting a parameter keeps
    all of them but those of its own name.
-/

namespace ResourceFeed

namespace Text

/-- A separator ends the piece before it. -/
theorem pieces_append_separator (separator : Char) (front back : List Char) :
    pieces (· == separator) (front ++ separator :: back) =
      pieces (· == separator) front ++ pieces (· == separator) back := by
  induction front with
  | nil => simp [pieces]
  | cons c front ih =>
    rw [List.cons_append, pieces, pieces, ih]
    by_cases hc : (c == separator) = true
    · rw [if_pos hc, if_pos hc, List.cons_append]
    · rw [if_neg hc, if_neg hc]
      obtain ⟨piece, others, hpieces⟩ :=
        List.exists_cons_of_ne_nil (pieces_ne_nil (· == separator) front)
      rw [hpieces]
      rfl

theorem pieces_of_not_mem {separator : Char} {part : List Char} (hpart : separator ∉ part) :
    pieces (· == separator) part = [part] := by
  induction part with
  | nil => rfl
  | cons c part ih =>
    have hc : ¬ c = separator := fun h => hpart (h ▸ List.mem_cons_self)
    rw [pieces, if_neg (by simpa using hc), ih fun h => hpart (List.mem_cons_of_mem _ h)]

/-- The pieces of joined texts are those of each of them. -/
theorem pieces_join_flatMap {separator : Char} {parts : List (List Char)} (hne : parts ≠ []) :
    pieces (· == separator) (join separator parts) =
      parts.flatMap (pieces (· == separator)) := by
  induction parts with
  | nil => exact absurd rfl hne
  | cons part rest ih =>
    cases rest with
    | nil => exact (List.append_nil _).symm
    | cons other rest =>
      show pieces _ (part ++ separator :: join separator (other :: rest)) = _
      rw [pieces_append_separator, ih (List.cons_ne_nil _ _)]
      rfl

/-- Pieces without the separator are found again after they were joined. -/
theorem pieces_join {separator : Char} {parts : List (List Char)} (hne : parts ≠ [])
    (hfree : ∀ part ∈ parts, separator ∉ part) :
    pieces (· == separator) (join separator parts) = parts := by
  rw [pieces_join_flatMap hne]
  clear hne
  induction parts with
  | nil => rfl
  | cons part rest ih =>
    rw [List.flatMap_cons, pieces_of_not_mem (hfree part List.mem_cons_self),
      ih fun other hother => hfree other (List.mem_cons_of_mem _ hother)]
    rfl

theorem join_concat {separator : Char} {parts : List (List Char)} (hne : parts ≠ [])
    (last : List Char) :
    join separator (parts ++ [last]) = join separator parts ++ separator :: last := by
  induction parts with
  | nil => exact absurd rfl hne
  | cons part rest ih =>
    cases rest with
    | nil => rfl
    | cons other rest =>
      show part ++ separator :: join separator (other :: rest ++ [last]) = _
      rw [ih (List.cons_ne_nil _ _)]
      exact (List.append_assoc part (separator :: join separator (other :: rest)) _).symm

/-- Each text in front of the last one is joined to it with a separator. -/
theorem join_concat_eq_flatMap (separator : Char) (parts : List (List Char)) (last : List Char) :
    join separator (parts ++ [last]) = parts.flatMap (· ++ [separator]) ++ last := by
  induction parts with
  | nil => rfl
  | cons part rest ih =>
    have hrest : join separator (part :: rest ++ [last]) =
        part ++ separator :: join separator (rest ++ [last]) := by
      cases rest with
      | nil => rfl
      | cons other rest => rfl
    rw [hrest, ih, List.flatMap_cons, List.append_assoc, List.append_assoc]
    rfl

theorem length_flatMap_filter_le (separator : Char) (keep : List Char → Bool)
    (parts : List (List Char)) :
    ((parts.filter keep).flatMap (· ++ [separator])).length ≤
      (parts.flatMap (· ++ [separator])).length := by
  induction parts with
  | nil => exact Nat.le_refl _
  | cons part rest ih =>
    rw [List.filter_cons, List.flatMap_cons, List.length_append]
    split
    · rw [List.flatMap_cons, List.length_append]
      omega
    · omega

/-- Without some of the texts in front of the last one the joined text is another one. -/
theorem join_filter_concat_iff (separator : Char) (keep : List Char → Bool)
    (parts : List (List Char)) (last : List Char) :
    join separator (parts.filter keep ++ [last]) = join separator (parts ++ [last]) ↔
      ∀ part ∈ parts, keep part = true := by
  constructor
  · intro hsame
    rw [join_concat_eq_flatMap, join_concat_eq_flatMap, List.append_cancel_right_eq] at hsame
    induction parts with
    | nil => nofun
    | cons part rest ih =>
      cases hpart : keep part with
      | true =>
        rw [List.filter_cons_of_pos hpart, List.flatMap_cons, List.flatMap_cons,
          List.append_cancel_left_eq] at hsame
        exact List.forall_mem_cons.mpr ⟨hpart, ih hsame⟩
      | false =>
        -- without this text there is at least a separator less
        have hlength := congrArg List.length hsame
        have hle := length_flatMap_filter_le separator keep rest
        rw [List.filter_cons_of_neg (by rw [hpart]; decide), List.flatMap_cons,
          List.length_append, List.length_append, List.length_singleton] at hlength
        omega
  · intro hall
    rw [List.filter_eq_self.mpr hall]

theorem splitFirst_append {separator : Char} {front : List Char} (hfront : separator ∉ front)
    (back : List Char) :
    splitFirst separator (front ++ separator :: back) = (front, some back) := by
  induction front with
  | nil => simp [splitFirst]
  | cons c front ih =>
    have hc : ¬ c = separator := fun h => hfront (h ▸ List.mem_cons_self)
    rw [List.cons_append, splitFirst, if_neg hc, ih fun h => hfront (List.mem_cons_of_mem _ h)]

theorem splitFirst_of_not_mem {separator : Char} {text : List Char} (h : separator ∉ text) :
    splitFirst separator text = (text, none) := by
  induction text with
  | nil => rfl
  | cons c rest ih =>
    have hc : ¬ c = separator := fun h' => h (h' ▸ List.mem_cons_self)
    rw [splitFirst, if_neg hc, ih fun h' => h (List.mem_cons_of_mem _ h')]

end Text

namespace Address

/-! ### Addresses as characters -/

/-- Clauses behind the characters of an address. -/
def withClauses (address : List Char) (clauses : List (List Char)) : List Char :=
  match clauses with
  | [] => address
  | clauses => address ++ '?' :: Text.join '&' clauses

/-- A clause that is found again between others: it is not empty and has no ampersand. -/
def IsSolid (clause : List Char) : Prop :=
  clause ≠ [] ∧ '&' ∉ clause

variable {address : List Char} {clauses : List (List Char)}

theorem path_withClauses (haddress : '?' ∉ address) :
    path (withClauses address clauses) = address := by
  unfold path
  cases clauses with
  | nil => rw [withClauses, Text.splitFirst_of_not_mem haddress]
  | cons clause rest =>
    show (Text.splitFirst '?' (address ++ '?' :: _)).1 = address
    rw [Text.splitFirst_append haddress]

/-- The clauses are the parameters of the address. -/
theorem parameters_withClauses (haddress : '?' ∉ address)
    (hclauses : ∀ clause ∈ clauses, IsSolid clause) :
    parameters (withClauses address clauses) = clauses := by
  unfold parameters
  cases clauses with
  | nil => rw [withClauses, Text.splitFirst_of_not_mem haddress]
  | cons clause rest =>
    have hpieces : Text.pieces (· == '&') (Text.join '&' (clause :: rest)) = clause :: rest :=
      Text.pieces_join (List.cons_ne_nil _ _) fun part hpart => (hclauses part hpart).2
    have hsplit : Text.splitFirst '?' (withClauses address (clause :: rest)) =
        (address, some (Text.join '&' (clause :: rest))) := Text.splitFirst_append haddress _
    rw [hsplit]
    simp only
    -- only empty pieces are dropped, and no clause is empty
    rw [hpieces, List.filter_eq_self]
    intro part hpart
    have hne := (hclauses part hpart).1
    cases part with
    | nil => exact absurd rfl hne
    | cons c part => rfl

/-- Setting a parameter keeps the clauses that do not have its name. -/
theorem setChars_withClauses (haddress : '?' ∉ address)
    (hclauses : ∀ clause ∈ clauses, IsSolid clause) (name value : List Char) :
    setChars (withClauses address clauses) name value =
      withClauses address
        ((clauses.filter fun clause => !hasName name clause) ++ [name ++ '=' :: value]) := by
  unfold setChars
  rw [path_withClauses haddress, parameters_withClauses haddress hclauses]
  unfold withClauses
  simp only
  split
  · -- there is at least the clause that was set
    rename_i h
    simp at h
  · rfl

/-! ### Addresses as text -/

/-- A clause behind an address that may have some already. -/
def addClause (address clause : String) : String :=
  if '?' ∈ address.toList then address ++ "&" ++ clause else address ++ "?" ++ clause

/-- If no clause has a name, all of them are kept when a parameter of that name is set. -/
theorem filter_unnamed {name : List Char} {clauses : List String}
    (h : ∀ clause ∈ clauses, hasName name clause.toList = false) :
    clauses.filter (fun clause => !hasName name clause.toList) = clauses := by
  rw [List.filter_eq_self]
  intro clause hclause
  rw [h clause hclause]
  rfl

theorem toList_appendClauses (address : String) (clauses : List String) :
    (appendClauses address clauses).toList =
      withClauses address.toList (clauses.map String.toList) := by
  have hjoin : ∀ (first : List Char) (rest : List String),
      Text.join '&' (first :: rest.map String.toList) =
        first ++ (rest.map ("&" ++ ·)).flatMap String.toList := by
    intro first rest
    induction rest generalizing first with
    | nil => simp [Text.join]
    | cons clause rest ih =>
      rw [List.map_cons, Text.join, ih]
      · simp
      · exact List.cons_ne_nil _ _
  cases clauses with
  | nil => rfl
  | cons first rest =>
    show _ = address.toList ++ '?' :: Text.join '&' (first.toList :: rest.map String.toList)
    rw [hjoin]
    simp only [appendClauses, String.toList_append, String.toList_join, List.append_assoc]
    rfl

/-- Addresses with different clauses are different. -/
theorem appendClauses_injective {address : String} (haddress : '?' ∉ address.toList)
    {first second : List String} (hfirst : ∀ clause ∈ first, IsSolid clause.toList)
    (hsecond : ∀ clause ∈ second, IsSolid clause.toList)
    (h : appendClauses address first = appendClauses address second) : first = second := by
  have hparameters := congrArg (fun text => parameters text.toList) h
  simp only [toList_appendClauses] at hparameters
  -- the clauses of either address are its parameters
  rw [parameters_withClauses haddress (List.forall_mem_map.mpr hfirst),
    parameters_withClauses haddress (List.forall_mem_map.mpr hsecond)] at hparameters
  exact (List.map_inj_right fun _ _ => String.toList_inj.mp).mp hparameters

theorem addClause_appendClauses {address : String} (haddress : '?' ∉ address.toList)
    (clauses : List String) (clause : String) :
    addClause (appendClauses address clauses) clause =
      appendClauses address (clauses ++ [clause]) := by
  unfold addClause
  cases clauses with
  | nil =>
    show (if '?' ∈ address.toList then _ else _) = _
    rw [if_neg haddress]
    simp [appendClauses]
  | cons first rest =>
    -- there is a question mark already, in front of the first clause
    have hmark : '?' ∈ (appendClauses address (first :: rest)).toList := by
      simp [appendClauses]
    rw [if_pos hmark]
    simp [appendClauses, String.append_assoc]

/-- Setting a parameter keeps the clauses that do not have its name, and adds it behind them. -/
theorem setParameter_appendClauses {address : String} (haddress : '?' ∉ address.toList)
    {clauses : List String} (hclauses : ∀ clause ∈ clauses, IsSolid clause.toList)
    (name value : String) :
    setParameter (appendClauses address clauses) name value =
      appendClauses address
        ((clauses.filter fun clause => !hasName name.toList clause.toList)
          ++ [name ++ "=" ++ value]) := by
  have hsolid := List.forall_mem_map.mpr hclauses
  rw [← String.toList_inj]
  unfold setParameter
  rw [String.toList_ofList, toList_appendClauses, toList_appendClauses,
    setChars_withClauses haddress hsolid, List.filter_map, List.map_append]
  congr 2
  simp

end Address

end ResourceFeed
