import ResourceFeed.Proofs.Feed.Address

/-! # When setting a parameter only adds it

    To set a parameter, an address is taken apart at its ampersands, wherever
    they come from, and what is empty or has the name of the parameter is left
    out.  So the address stays as it is, with the parameter behind it, exactly
    if there is no such piece.

    A text that comes from elsewhere may have ampersands of its own.  It gets
    through if it is not *torn*: if it has neither two ampersands in a row nor
    the name and an equals sign behind an ampersand.
-/

namespace ResourceFeed

namespace Text

/-! ### Marks inside a text -/

/-- What begins with a character is not found across a front without it. -/
theorem infix_append_iff_of_not_mem {c : Char} {mark front back : List Char} (hfront : c ∉ front) :
    c :: mark <:+: front ++ back ↔ c :: mark <:+: back := by
  induction front with
  | nil => rfl
  | cons first front ih =>
    have hne : c ≠ first := fun h => hfront (h ▸ List.mem_cons_self)
    rw [List.cons_append, List.infix_cons_iff, ih fun h => hfront (List.mem_cons_of_mem _ h),
      List.cons_prefix_cons]
    exact or_iff_right fun h => hne h.1

/-- What does not have a separator stands before or behind it. -/
theorem prefix_append_separator_iff {separator : Char} {mark front back : List Char}
    (hmark : separator ∉ mark) :
    mark <+: front ++ separator :: back ↔ mark <+: front := by
  constructor
  · intro h
    rcases Nat.lt_or_ge front.length mark.length with hlong | hshort
    · -- the mark would have the separator
      have hfront : front ++ [separator] <+: front ++ separator :: back := by simp
      have hlength : (front ++ [separator]).length ≤ mark.length := by
        rw [List.length_append, List.length_singleton]
        omega
      have hhead := List.prefix_of_prefix_length_le hfront h hlength
      exact absurd (hhead.subset (by simp)) hmark
    · exact List.prefix_of_prefix_length_le h (List.prefix_append _ _) hshort
  · intro h
    exact h.trans (List.prefix_append _ _)

theorem infix_append_separator_iff {separator : Char} {mark front back : List Char}
    (hmark : separator ∉ mark) :
    mark <:+: front ++ separator :: back ↔ mark <:+: front ∨ mark <:+: back := by
  induction front with
  | nil =>
    rw [List.nil_append, List.infix_cons_iff]
    have h : mark <+: [] ++ separator :: back ↔ mark <+: [] := prefix_append_separator_iff hmark
    rw [List.nil_append] at h
    rw [h, List.prefix_nil, List.infix_nil]
  | cons first front ih =>
    have h : mark <+: (first :: front) ++ separator :: back ↔ mark <+: first :: front :=
      prefix_append_separator_iff hmark
    rw [List.cons_append] at h ⊢
    rw [List.infix_cons_iff, List.infix_cons_iff, h, ih, or_assoc]

end Text

namespace Address

/-! ### Pieces that are left out -/

/-- What stands between the ampersands behind the question mark of an address. -/
def queryPieces (address : List Char) : List (List Char) :=
  match (Text.splitFirst '?' address).2 with
  | none => []
  | some query => Text.pieces (· == '&') query

/-- A parameter behind the characters of an address that may have some already. -/
def addChars (address clause : List Char) : List Char :=
  if '?' ∈ address then address ++ '&' :: clause else address ++ '?' :: clause

/-- What is kept when a parameter is set: what is not empty and has another name. -/
def isKept (name piece : List Char) : Bool :=
  !piece.isEmpty && !hasName name piece

/-- Setting a parameter only adds it if nothing between the ampersands is empty or has its name. -/
theorem setChars_eq_addChars_iff (address name value : List Char) :
    setChars address name value = addChars address (name ++ '=' :: value) ↔
      ∀ piece ∈ queryPieces address, isKept name piece = true := by
  unfold setChars addChars queryPieces path parameters
  by_cases hmark : '?' ∈ address
  · obtain ⟨front, query, rfl, hfront⟩ := List.eq_append_cons_of_mem hmark
    have hquery : query ++ '&' :: (name ++ '=' :: value) =
        Text.join '&' (Text.pieces (· == '&') query ++ [name ++ '=' :: value]) := by
      rw [Text.join_concat (Text.pieces_ne_nil _ _), Text.join_pieces]
    have hkept : ((Text.pieces (· == '&') query).filter fun piece => !piece.isEmpty).filter
        (fun piece => !hasName name piece) = (Text.pieces (· == '&') query).filter (isKept name) := by
      rw [List.filter_filter]
      exact List.filter_congr fun piece _ => Bool.and_comm _ _
    simp only [Text.splitFirst_append hfront, hkept, if_pos hmark]
    rw [List.append_assoc, List.cons_append, hquery, List.append_cancel_left_eq, List.cons_inj_right]
    exact Text.join_filter_concat_iff '&' (isKept name) _ _
  · simp only [Text.splitFirst_of_not_mem hmark, if_neg hmark]
    exact ⟨fun _ => nofun, fun _ => rfl⟩

theorem toList_addClause (address clause : String) :
    (addClause address clause).toList = addChars address.toList clause.toList := by
  unfold addClause addChars
  split <;> simp

/-- The same of an address as text. -/
theorem setParameter_eq_addClause_iff (address name value : String) :
    setParameter address name value = addClause address (name ++ "=" ++ value) ↔
      ∀ piece ∈ queryPieces address.toList, isKept name.toList piece = true := by
  have hclause : (name ++ "=" ++ value).toList = name.toList ++ '=' :: value.toList := by simp
  rw [← setChars_eq_addChars_iff address.toList name.toList value.toList, ← hclause,
    ← toList_addClause, setParameter, ← String.toList_inj, String.toList_ofList]

/-- Whether all of a text is kept that stands between other clauses. -/
def IsWhole (name text : List Char) : Prop :=
  ∀ piece ∈ Text.pieces (· == '&') text, isKept name piece = true

/-- A clause that is not taken apart is kept if it has another name. -/
theorem IsSolid.isWhole {name clause : List Char} (hclause : IsSolid clause)
    (hunnamed : hasName name clause = false) : IsWhole name clause := by
  unfold IsWhole
  rw [Text.pieces_of_not_mem hclause.2, List.forall_mem_singleton, isKept, hunnamed]
  simp [hclause.1]

/-- Between the ampersands of an address stands what is between those of its clauses. -/
theorem queryPieces_withClauses {address : List Char} (haddress : '?' ∉ address)
    (clauses : List (List Char)) :
    queryPieces (withClauses address clauses) = clauses.flatMap (Text.pieces (· == '&')) := by
  unfold queryPieces
  cases clauses with
  | nil =>
    rw [withClauses, Text.splitFirst_of_not_mem haddress]
    rfl
  | cons first rest =>
    have hsplit : Text.splitFirst '?' (withClauses address (first :: rest)) =
        (address, some (Text.join '&' (first :: rest))) := Text.splitFirst_append haddress _
    rw [hsplit]
    exact Text.pieces_join_flatMap (List.cons_ne_nil _ _)

/-- Whether something between the ampersands of a text is left out, its ends apart: there are two
    ampersands in a row, or there is the name with an equals sign behind an ampersand. -/
def IsTorn (name text : List Char) : Prop :=
  ['&', '&'] <:+: text ∨ '&' :: (name ++ ['=']) <:+: text

instance (name text : List Char) : Decidable (IsTorn name text) :=
  inferInstanceAs (Decidable (_ ∨ _))

section torn
variable {name : List Char}

theorem not_isTorn_of_not_mem {text : List Char} (htext : '&' ∉ text) : ¬ IsTorn name text := by
  rintro (h | h)
  · exact htext (h.subset List.mem_cons_self)
  · exact htext (h.subset List.mem_cons_self)

/-- A front without ampersands tears nothing. -/
theorem isTorn_append_iff {front : List Char} (hfront : '&' ∉ front) (back : List Char) :
    IsTorn name (front ++ back) ↔ IsTorn name back := by
  unfold IsTorn
  rw [Text.infix_append_iff_of_not_mem hfront, Text.infix_append_iff_of_not_mem hfront]

/-- A text with a separator is torn if one of its sides is. -/
theorem isTorn_append_separator_iff {separator : Char}
    (hseparator : separator ∉ '&' :: (name ++ ['='])) (front back : List Char) :
    IsTorn name (front ++ separator :: back) ↔ IsTorn name front ∨ IsTorn name back := by
  have hampersand : separator ∉ ['&', '&'] := by
    intro h
    have : separator = '&' := by simpa using h
    exact hseparator (this ▸ List.mem_cons_self)
  unfold IsTorn
  rw [Text.infix_append_separator_iff hampersand, Text.infix_append_separator_iff hseparator]
  exact or_or_or_comm

/-- The first piece is left out if it is empty or the text begins with the name. -/
theorem isKept_head_iff (hname : '&' ∉ name) {text first : List Char} {others : List (List Char)}
    (hpieces : Text.pieces (· == '&') text = first :: others) :
    isKept name first = true ↔ text ≠ [] ∧ ¬ ['&'] <+: text ∧ ¬ name ++ ['='] <+: text := by
  have hkept : isKept name first = true ↔ first ≠ [] ∧ ¬ name ++ ['='] <+: first := by
    rw [isKept, hasName, Bool.and_eq_true, Bool.not_eq_true', Bool.not_eq_true',
      List.isEmpty_eq_false_iff, ← Bool.not_eq_true, List.isPrefixOf_iff_prefix]
  rw [hkept]
  by_cases htext : '&' ∈ text
  · obtain ⟨front, back, rfl, hfront⟩ := List.eq_append_cons_of_mem htext
    rw [Text.pieces_append_separator, Text.pieces_of_not_mem hfront] at hpieces
    obtain rfl : front = first := List.head_eq_of_cons_eq hpieces
    have hmark : '&' ∉ name ++ ['='] := by simpa using hname
    rw [Text.prefix_append_separator_iff hmark]
    have hbegins : ['&'] <+: front ++ '&' :: back ↔ front = [] := by
      cases front with
      | nil => simp
      | cons c front =>
        have hne : '&' ≠ c := fun h => hfront (h ▸ List.mem_cons_self)
        simp [List.cons_prefix_cons, hne]
    rw [hbegins]
    simp
  · rw [Text.pieces_of_not_mem htext] at hpieces
    obtain rfl : text = first := List.head_eq_of_cons_eq hpieces
    have hbegins : ¬ ['&'] <+: text := fun h => htext (h.subset List.mem_cons_self)
    exact and_congr_right fun _ => (and_iff_right hbegins).symm

/-- The pieces behind the first ampersand are kept if the text does not end with an ampersand and is
    not torn. -/
theorem forall_tail_isKept_iff (hname : '&' ∉ name) (text : List Char) :
    (∀ piece ∈ (Text.pieces (· == '&') text).tail, isKept name piece = true) ↔
      ¬ ['&'] <:+ text ∧ ¬ IsTorn name text := by
  induction text with
  | nil =>
    refine ⟨fun _ => ⟨by decide, not_isTorn_of_not_mem List.not_mem_nil⟩, fun _ => nofun⟩
  | cons c rest ih =>
    obtain ⟨first, others, hpieces⟩ :=
      List.exists_cons_of_ne_nil (Text.pieces_ne_nil (· == '&') rest)
    rw [hpieces, List.tail_cons] at ih
    have htorn : IsTorn name (c :: rest) ↔
        c = '&' ∧ (['&'] <+: rest ∨ name ++ ['='] <+: rest) ∨ IsTorn name rest := by
      unfold IsTorn
      rw [List.infix_cons_iff, List.infix_cons_iff, List.cons_prefix_cons, List.cons_prefix_cons]
      grind
    have hend : ['&'] <:+ c :: rest ↔ c = '&' ∧ rest = [] ∨ ['&'] <:+ rest := by
      rw [List.suffix_cons_iff]
      grind
    rw [htorn, hend, Text.pieces]
    by_cases hc : c = '&'
    · -- the text goes on with a piece of its own
      have hhead := isKept_head_iff hname hpieces
      rw [if_pos (by simpa using hc), List.tail_cons, hpieces, List.forall_mem_cons, ih, hhead]
      grind
    · rw [if_neg (by simpa using hc), hpieces]
      show (∀ piece ∈ others, _) ↔ _
      rw [ih]
      grind

/-- A text is kept if it neither begins nor ends badly and is not torn. -/
theorem isWhole_iff (hname : '&' ∉ name) (text : List Char) :
    IsWhole name text ↔
      (text ≠ [] ∧ ¬ ['&'] <+: text ∧ ¬ name ++ ['='] <+: text) ∧
        ¬ ['&'] <:+ text ∧ ¬ IsTorn name text := by
  obtain ⟨first, others, hpieces⟩ :=
    List.exists_cons_of_ne_nil (Text.pieces_ne_nil (· == '&') text)
  have htail := forall_tail_isKept_iff hname text
  rw [hpieces, List.tail_cons] at htail
  rw [IsWhole, hpieces, List.forall_mem_cons, isKept_head_iff hname hpieces, htail]

end torn

end Address

end ResourceFeed
