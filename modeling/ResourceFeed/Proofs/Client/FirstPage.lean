import ResourceFeed.Client.Operations
import ResourceFeed.Proofs.Feed.Parameters
import ResourceFeed.Proofs.Query.Layers
import ResourceFeed.Proofs.Query.Spelling

/-! # What a page size does to a query

    The page size is a parameter of the first address of a feed, set behind
    the clauses of the query.  Text constants stand in a predicate between
    quotes but as they are, so their ampersands look like those between the
    clauses when the address is taken apart.

    Clauses of members and numbers are kept, whatever the page size.  A filter
    is kept if none of its text constants is torn; else the server is asked for
    another text.
-/

namespace ResourceFeed

/-! ### Text constants of a chain -/

/-- The text constants of a predicate, from left to right. -/
def Expr.quotedTexts : Expr → List String
  | .constant (.text text) => [text]
  | .binary _ left right => left.quotedTexts ++ right.quotedTexts
  | _ => []

namespace Chain

/-- The text constants of the filters of a chain. -/
def quotedTexts (chain : Chain) : List String :=
  chain.filters.flatMap Expr.quotedTexts

/-- The names of members in the clauses of a chain. -/
def writtenNames (chain : Chain) : List String :=
  chain.filters.flatMap Expr.directMembers ++ chain.selectors.flatMap Expr.directMembers ++
    chain.inclusions

end Chain

/-! ### Torn predicates -/

/-- What has something without ampersands at its end does not end with one. -/
theorem not_suffix_append {back : String} (hback : Unbroken back) (hne : back.toList ≠ [])
    (front : String) : ¬ ['&'] <:+ (front ++ back).toList := by
  intro h
  rw [String.toList_append] at h
  have hlength : ['&'].length ≤ back.toList.length := List.length_pos_iff.mpr hne
  have hend := List.suffix_of_suffix_length_le h (List.suffix_append _ _) hlength
  exact hback (hend.subset List.mem_cons_self)

theorem not_suffix_of_unbroken {text : String} (htext : Unbroken text) :
    ¬ ['&'] <:+ text.toList := by
  intro h
  exact htext (h.subset List.mem_cons_self)

/-- A constant that is not a text is written without ampersands. -/
theorem unbroken_literal_of_not_text {value : Value} {literal : String}
    (h : value.literal = .ok literal) (hvalue : ∀ text, value ≠ .text text) : Unbroken literal := by
  refine unbroken_literal h ?_
  intro text htext
  cases value with
  | text value => exact absurd rfl (hvalue value)
  | _ => cases htext

/-- The text of a predicate ends with a parenthesis or a quote, or has no ampersand at all. -/
theorem not_suffix_predicateText {predicate : Expr} {text : String}
    (h : predicate.predicateText = .ok text)
    (hnames : ∀ name ∈ predicate.directMembers, Unbroken name) : ¬ ['&'] <:+ text.toList := by
  cases predicate with
  | member target name =>
    cases target with
    | element =>
      rw [← Except.ok.inj h]
      exact not_suffix_of_unbroken (hnames name List.mem_cons_self)
    | _ => cases h
  | constant value =>
    cases value with
    | text value =>
      cases h
      exact not_suffix_append (by decide) (by decide) _
    | _ => exact not_suffix_of_unbroken (unbroken_literal_of_not_text h (by simp))
  | binary operator left right =>
    rw [Expr.predicateText] at h
    obtain ⟨keyword, -, h⟩ := bind_eq_ok.mp h
    obtain ⟨leftText, -, h⟩ := bind_eq_ok.mp h
    obtain ⟨rightText, -, h⟩ := bind_eq_ok.mp h
    cases h
    exact not_suffix_append (by decide) (by decide) _
  | _ => cases h

/-- The parameter that asks for a page size. -/
def countName : List Char := "count".toList

theorem not_isTorn_of_unbroken {text : String} (htext : Unbroken text) :
    ¬ Address.IsTorn countName text.toList :=
  Address.not_isTorn_of_not_mem htext

/-- Quotes around a text neither tear it nor mend it. -/
theorem isTorn_quoted_iff (text : String) :
    Address.IsTorn countName ("'" ++ text ++ "'").toList ↔
      Address.IsTorn countName text.toList := by
  have hquote : '\'' ∉ '&' :: (countName ++ ['=']) := by decide
  have hchars : ("'" ++ text ++ "'").toList = ['\''] ++ (text.toList ++ '\'' :: []) := by simp
  rw [hchars, Address.isTorn_append_iff (by decide), Address.isTorn_append_separator_iff hquote]
  exact or_iff_left (Address.not_isTorn_of_not_mem List.not_mem_nil)

/-- Nor do parentheses around two texts and a word between them. -/
theorem isTorn_infix_iff {keyword : String} (hkeyword : Unbroken keyword) (left right : String) :
    Address.IsTorn countName ("(" ++ left ++ " " ++ keyword ++ " " ++ right ++ ")").toList ↔
      Address.IsTorn countName left.toList ∨ Address.IsTorn countName right.toList := by
  have hspace : ' ' ∉ '&' :: (countName ++ ['=']) := by decide
  have hclose : ')' ∉ '&' :: (countName ++ ['=']) := by decide
  have hchars : ("(" ++ left ++ " " ++ keyword ++ " " ++ right ++ ")").toList =
      ['('] ++ (left.toList ++ ' ' :: (keyword.toList ++ ' ' :: (right.toList ++ ')' :: []))) := by
    simp
  rw [hchars, Address.isTorn_append_iff (by decide), Address.isTorn_append_separator_iff hspace,
    Address.isTorn_append_separator_iff hspace, Address.isTorn_append_separator_iff hclose,
    or_iff_right (not_isTorn_of_unbroken hkeyword),
    or_iff_left (Address.not_isTorn_of_not_mem List.not_mem_nil)]

/-- A constant is torn if it is a text that is. -/
theorem isTorn_literal_iff {value : Value} {literal : String} (h : value.literal = .ok literal) :
    Address.IsTorn countName literal.toList ↔
      ∃ quoted ∈ (Expr.constant value).quotedTexts, Address.IsTorn countName quoted.toList := by
  cases value with
  | text value =>
    cases h
    rw [isTorn_quoted_iff, Expr.quotedTexts]
    simp
  | _ =>
    have hliteral : Unbroken literal := unbroken_literal_of_not_text h (by simp)
    exact iff_of_false (not_isTorn_of_unbroken hliteral) (by simp [Expr.quotedTexts])

/-- The text of a predicate is torn if one of its text constants is. -/
theorem isTorn_predicateText_iff {predicate : Expr} {text : String}
    (h : predicate.predicateText = .ok text)
    (hnames : ∀ name ∈ predicate.directMembers, Unbroken name) :
    Address.IsTorn countName text.toList ↔
      ∃ quoted ∈ predicate.quotedTexts, Address.IsTorn countName quoted.toList := by
  induction predicate using Expr.predicateText.induct generalizing text with
  | case2 name =>
    cases h
    refine iff_of_false (not_isTorn_of_unbroken (hnames name List.mem_cons_self)) ?_
    simp [Expr.quotedTexts]
  | case3 target name hne =>
    rw [Expr.predicateText] at h
    · cases h
    · exact hne
  | case4 value => exact isTorn_literal_iff h
  | case5 operator left right ihleft ihright =>
    rw [Expr.predicateText] at h
    obtain ⟨keyword, hkeyword, h⟩ := bind_eq_ok.mp h
    obtain ⟨leftText, hleft, h⟩ := bind_eq_ok.mp h
    obtain ⟨rightText, hright, h⟩ := bind_eq_ok.mp h
    cases h
    rw [Expr.directMembers, List.forall_mem_append] at hnames
    rw [isTorn_infix_iff (unbroken_keyword hkeyword), ihleft hleft hnames.1,
      ihright hright hnames.2, Expr.quotedTexts]
    simp only [List.mem_append, or_and_right, exists_or]
  -- elements, calls, captures and constructions have no text
  | case1 => cases h
  | case6 => cases h
  | case7 => cases h
  | case8 => cases h

/-! ### Kept clauses -/

/-- A clause without ampersands is kept. -/
theorem IsClause.isWhole {clause : String} (h : IsClause clause) :
    Address.IsWhole countName clause.toList :=
  h.isSolid.isWhole (h.not_hasName (by simp))

/-- A filter is kept if its predicate neither ends with an ampersand nor is torn. -/
theorem isWhole_where_iff (text : String) :
    Address.IsWhole countName ("where=" ++ text).toList ↔
      ¬ ['&'] <:+ text.toList ∧ ¬ Address.IsTorn countName text.toList := by
  have hwhere : '&' ∉ "where=".toList := by decide
  have hend : ['&'] <:+ "where=".toList ++ text.toList ↔ ['&'] <:+ text.toList := by
    simp [List.suffix_cons_iff]
  rw [Address.isWhole_iff (by decide), String.toList_append, Address.isTorn_append_iff hwhere, hend]
  -- the word in front of it is not the name of the page size
  exact and_iff_right (by simp [countName])

/-- The filter of a predicate with a text is kept if none of its text constants is torn. -/
theorem isWhole_filter_iff {predicate : Expr} {text : String}
    (h : predicate.predicateText = .ok text)
    (hnames : ∀ name ∈ predicate.directMembers, Unbroken name) :
    Address.IsWhole countName ("where=" ++ text).toList ↔
      ∀ quoted ∈ predicate.quotedTexts, ¬ Address.IsTorn countName quoted.toList := by
  rw [isWhole_where_iff, isTorn_predicateText_iff h hnames,
    and_iff_right (not_suffix_predicateText h hnames)]
  simp

namespace Chain

/-- The clauses of a chain are kept if none of its text constants is torn. -/
theorem forall_isWhole_iff {chain : Chain} (hsend : Layer.Sendable chain.layers)
    (hnames : ∀ name ∈ chain.writtenNames, Unbroken name) :
    (∀ clause ∈ chain.filters.map (fun predicate => "where=" ++ predicate.text) ++
        chain.selectors.map (fun selector => "select=" ++ selector.selectList) ++
        inclusionClauses chain.inclusions,
      Address.IsWhole countName clause.toList) ↔
      ∀ quoted ∈ chain.quotedTexts, ¬ Address.IsTorn countName quoted.toList := by
  unfold writtenNames at hnames
  rw [List.forall_mem_append, List.forall_mem_append] at hnames
  obtain ⟨⟨hfilters, hselectors⟩, hinclusions⟩ := hnames
  have hselect : ∀ clause ∈ chain.selectors.map fun selector => "select=" ++ selector.selectList,
      Address.IsWhole countName clause.toList := by
    rw [List.forall_mem_map]
    intro selector hselector
    have hlist : Unbroken selector.selectList := by
      refine unbroken_intercalate (by decide) ?_
      intro name hname
      exact hselectors name (List.mem_flatMap.mpr ⟨selector, hselector, hname⟩)
    have hclause : IsClause ("select=" ++ selector.selectList) :=
      ⟨"select=", by simp, selector.selectList, hlist, rfl⟩
    exact hclause.isWhole
  have hinclude : ∀ clause ∈ inclusionClauses chain.inclusions,
      Address.IsWhole countName clause.toList := by
    intro clause hclause
    unfold inclusionClauses at hclause
    split at hclause
    · cases hclause
    · have hlist : Unbroken (String.intercalate "," chain.inclusions) :=
        unbroken_intercalate (by decide) hinclusions
      have hinclusion : IsClause ("include=" ++ String.intercalate "," chain.inclusions) :=
        ⟨"include=", by simp, _, hlist, rfl⟩
      rw [List.mem_singleton.mp hclause]
      exact hinclusion.isWhole
  have hfilter : ∀ predicate ∈ chain.filters,
      (Address.IsWhole countName ("where=" ++ predicate.text).toList ↔
        ∀ quoted ∈ predicate.quotedTexts, ¬ Address.IsTorn countName quoted.toList) := by
    intro predicate hpredicate
    obtain ⟨text, htext⟩ := hsend.haveTexts predicate hpredicate
    have hsame : predicate.text = text := by rw [Expr.text, htext]
    rw [hsame]
    refine isWhole_filter_iff htext ?_
    intro name hname
    exact hfilters name (List.mem_flatMap.mpr ⟨predicate, hpredicate, hname⟩)
  -- selections and inclusions are kept, so that all depends on the filters
  rw [List.forall_mem_append, List.forall_mem_append, and_iff_left hinclude, and_iff_left hselect,
    List.forall_mem_map, quotedTexts, List.forall_mem_flatMap]
  exact forall₂_congr hfilter

end Chain

/-! ### Addresses of first pages -/

theorem mem_of_mem_trimSlashes {c : Char} {url : String}
    (h : c ∈ (Site.trimSlashes url).toList) : c ∈ url.toList := by
  rw [Site.trimSlashes, String.toList_ofList, List.mem_reverse] at h
  exact List.mem_reverse.mp ((List.dropWhile_sublist _).mem h)

/-- A client has the settings it was made for, which have no fault. -/
theorem ofSettings_eq_ok_iff {settings : Settings} {catalog : Catalog} {client : Client} :
    Client.ofSettings settings catalog = .ok client ↔ settings.fault? = none ∧
      client = ⟨settings, Site.ofBase settings.trimmedBaseUrl (Resolver.ofCatalog catalog)⟩ := by
  unfold Client.ofSettings Settings.validated
  cases settings.fault? with
  | none => exact ⟨fun h => ⟨rfl, (Except.ok.inj h).symm⟩, fun h => congrArg Except.ok h.2.symm⟩
  | some fault => exact ⟨nofun, nofun⟩

theorem not_mem_baseUrl_of_fault? {settings : Settings} (h : settings.fault? = none) :
    '?' ∉ settings.baseUrl.toList := by
  intro hbase
  unfold Settings.fault? at h
  rw [if_pos hbase] at h
  -- an earlier fault or this one
  split at h
  · cases h
  · split at h <;> cases h

/-- **What a page size does to a query**: the address of the first page is that of the query with
    the page size behind it exactly if no text constant of a filter is torn, that is, has two
    ampersands in a row or `count=` behind an ampersand.  Else the server is asked for something
    else than without a page size. -/
theorem page_size_keeps_query_iff {settings : Settings} {catalog : Catalog} {client : Client}
    (hclient : Client.ofSettings settings catalog = .ok client) {count : Nat}
    (hcount : settings.pageSize = some count) {chain : Chain}
    (hpath : ∀ path, client.resolver.pathOf chain.kind = .ok path → '?' ∉ path.toList)
    (hnames : ∀ name ∈ chain.writtenNames, '&' ∉ name.toList) {target : Target}
    (htarget : client.site.target chain = .ok target) :
    client.pagedUrl target.url = Address.addClause target.url ("count=" ++ toString count) ↔
      ∀ text ∈ chain.quotedTexts, ¬ Address.IsTorn countName text.toList := by
  obtain ⟨hfault, hmade⟩ := ofSettings_eq_ok_iff.mp hclient
  have hsettings : client.settings = settings := congrArg Client.settings hmade
  have hbase : '?' ∉ client.site.baseUrl.toList := by
    intro hmem
    rw [hmade] at hmem
    -- the base address is trimmed for the settings and once more for the site
    exact not_mem_baseUrl_of_fault? hfault (mem_of_mem_trimSlashes (mem_of_mem_trimSlashes hmem))
  rw [Site.target_eq] at htarget
  obtain ⟨path, hkind, htarget⟩ := bind_eq_ok.mp htarget
  cases hoffence : chain.offence? with
  | some failure =>
    rw [hoffence] at htarget
    cases htarget
  | none =>
    rw [hoffence] at htarget
    cases htarget
    have haddress : '?' ∉ (client.site.baseUrl ++ "/-/" ++ path).toList := by
      rw [String.toList_append, String.toList_append, List.mem_append, List.mem_append, not_or,
        not_or]
      exact ⟨⟨hbase, by decide⟩, hpath path hkind⟩
    have hsend := chain.offence?_eq_none_iff.mp hoffence
    rw [Client.pagedUrl, hsettings, hcount]
    refine (Address.setParameter_eq_addClause_iff _ "count" (toString count)).trans ?_
    rw [← appendClauses_eq, Address.toList_appendClauses,
      Address.queryPieces_withClauses haddress, ← Chain.forall_isWhole_iff hsend hnames,
      List.forall_mem_flatMap, List.forall_mem_map]
    rfl

/-- Settings with pages of two. -/
def pairSettings : Settings :=
  { Settings.initial with baseUrl := "https://x/sdata", pageSize := some 2 }

/-- A client that knows contacts and asks for pages of two. -/
def pairClient : Client :=
  ⟨pairSettings, Site.ofBase pairSettings.trimmedBaseUrl
    (Resolver.ofCatalog [⟨"Contact", "contacts", ⟨"Contact", "Contact", []⟩⟩])⟩

/-- The contacts of a department. -/
def contactsOf (department : String) : Chain :=
  .filter (.source "Contact") (.binary .eq (.field "Department") (.constant (.text department)))

set_option maxRecDepth 2000 in
/-- One ampersand is kept, a count behind it is not. -/
theorem page_size_keeps_departments :
    pairClient.pagedUrl "https://x/sdata/-/contacts?where=(Department eq 'R&D')" =
      "https://x/sdata/-/contacts?where=(Department eq 'R&D')&count=2" ∧
    pairClient.pagedUrl "https://x/sdata/-/contacts?where=(Department eq 'R&count=9')" ≠
      "https://x/sdata/-/contacts?where=(Department eq 'R&count=9')&count=2" := by
  have hclient : Client.ofSettings pairSettings
      [⟨"Contact", "contacts", ⟨"Contact", "Contact", []⟩⟩] = .ok pairClient := rfl
  have hcount : pairSettings.pageSize = some 2 := rfl
  have hpath : ∀ department path,
      pairClient.resolver.pathOf (contactsOf department).kind = .ok path → '?' ∉ path.toList := by
    intro department path h
    rw [← Except.ok.inj h]
    decide
  have hnames : ∀ department, ∀ name ∈ (contactsOf department).writtenNames, '&' ∉ name.toList := by
    intro department name hname
    have hfield : name = "Department" := List.mem_singleton.mp hname
    rw [hfield]
    decide
  have hkept : ∀ text ∈ (contactsOf "R&D").quotedTexts,
      ¬ Address.IsTorn countName text.toList := by decide
  have htorn : Address.IsTorn countName "R&count=9".toList := .inr ⟨['R'], ['9'], by decide⟩
  have htarget : pairClient.site.target (contactsOf "R&D") =
      .ok ⟨"https://x/sdata/-/contacts?where=(Department eq 'R&D')", none⟩ := rfl
  have hother : pairClient.site.target (contactsOf "R&count=9") =
      .ok ⟨"https://x/sdata/-/contacts?where=(Department eq 'R&count=9')", none⟩ := rfl
  constructor
  · rw [(page_size_keeps_query_iff hclient hcount (hpath "R&D") (hnames "R&D") htarget).mpr hkept]
    decide
  · intro h
    have hsize : "https://x/sdata/-/contacts?where=(Department eq 'R&count=9')&count=2" =
        Address.addClause "https://x/sdata/-/contacts?where=(Department eq 'R&count=9')"
          ("count=" ++ toString 2) := by decide
    rw [hsize] at h
    exact (page_size_keeps_query_iff hclient hcount (hpath "R&count=9") (hnames "R&count=9")
      hother).mp h "R&count=9" List.mem_cons_self htorn

/-- With pages of two the server is asked for another department. -/
theorem page_size_changes_department :
    pairClient.site.target (contactsOf "R&&D") =
      .ok ⟨"https://x/sdata/-/contacts?where=(Department eq 'R&&D')", none⟩ ∧
    pairClient.pagedUrl "https://x/sdata/-/contacts?where=(Department eq 'R&&D')" =
      "https://x/sdata/-/contacts?where=(Department eq 'R&D')&count=2" := by
  refine ⟨rfl, ?_⟩
  decide

end ResourceFeed
