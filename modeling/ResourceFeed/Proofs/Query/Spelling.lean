import ResourceFeed.Proofs.Feed.Address

/-! # How the clauses of a chain are spelled

    A clause is one of the words `where`, `select` and `include`, an equals
    sign and a text.  An ampersand gets into that text only with the name of a
    member or with a text constant: numbers, instants, the words of operators
    and the punctuation around them have none.  So if these names and
    constants have none either, every clause is found again behind the address
    of a query.
-/

namespace ResourceFeed

/-! ### Numbers and instants -/

/-- A text without ampersands. -/
def Unbroken (text : String) : Prop :=
  '&' ∉ text.toList

instance (text : String) : Decidable (Unbroken text) :=
  inferInstanceAs (Decidable ('&' ∉ text.toList))

namespace Unbroken

theorem append {a b : String} (ha : Unbroken a) (hb : Unbroken b) : Unbroken (a ++ b) := by
  unfold Unbroken
  rw [String.toList_append, List.mem_append, not_or]
  exact ⟨ha, hb⟩

theorem ofList {chars : List Char} (h : '&' ∉ chars) : Unbroken (String.ofList chars) := by
  unfold Unbroken
  rwa [String.toList_ofList]

theorem ite {p : Prop} [Decidable p] {a b : String} (ha : Unbroken a) (hb : Unbroken b) :
    Unbroken (if p then a else b) := by
  split
  · exact ha
  · exact hb

end Unbroken

theorem not_mem_toDigits (n : Nat) : '&' ∉ Nat.toDigits 10 n := by
  intro h
  have hdigit := Nat.isDigit_of_mem_toDigits (by decide) (by decide) h
  exact absurd hdigit (by decide)

theorem unbroken_nat (n : Nat) : Unbroken (toString n) := by
  have h : toString n = String.ofList (Nat.toDigits 10 n) := Nat.toString_eq_ofList_toDigits
  rw [h]
  exact .ofList (not_mem_toDigits n)

theorem unbroken_int (value : Int) : Unbroken (toString value) := by
  cases value with
  | ofNat n => exact unbroken_nat n
  | negSucc n =>
    have h : toString (Int.negSucc n) = "-" ++ toString (n + 1) := rfl
    rw [h]
    exact .append (by decide) (unbroken_nat (n + 1))

/-- Different numbers are written differently. -/
theorem number_injective {m n : Nat} (h : toString m = toString n) : m = n := by
  rw [Nat.toString_eq_ofList_toDigits, Nat.toString_eq_ofList_toDigits, String.ofList_inj] at h
  have hread := congrArg (fun digits => Nat.ofDigitChars 10 digits 0) h
  simp only [Nat.ofDigitChars_ten_toDigits] at hread
  exact hread

theorem unbroken_positionalText (layout : Decimal.Layout) (digits : Decimal.Digits) :
    Unbroken (layout.positionalText digits) := by
  have hdigits := not_mem_toDigits digits.digits
  unfold Decimal.Layout.positionalText
  simp only
  refine .ite (.append (.ofList ?_) (.ite (by decide) (by decide))) (.ite (.ofList ?_) (.ofList ?_))
  -- the point stands behind the digits, between them or in front of them
  · rw [List.mem_append, not_or]
    exact ⟨hdigits, fun h => absurd (List.eq_of_mem_replicate h) (by decide)⟩
  · intro h
    rcases List.mem_append.mp h with h | h
    · exact hdigits (List.mem_of_mem_take h)
    · rcases List.mem_cons.mp h with h | h
      · exact absurd h (by decide)
      · exact hdigits (List.mem_of_mem_drop h)
  · intro h
    rcases List.mem_cons.mp h with h | h
    · exact absurd h (by decide)
    rcases List.mem_cons.mp h with h | h
    · exact absurd h (by decide)
    rcases List.mem_append.mp h with h | h
    · exact absurd (List.eq_of_mem_replicate h) (by decide)
    · exact hdigits h

theorem unbroken_float (value : Float) : Unbroken (Decimal.Layout.plain.text value) := by
  unfold Decimal.Layout.text
  cases Decimal.Binary64.ofFloat value with
  | nan =>
    show Unbroken "NaN"
    decide
  | infinite negative => exact .ite (by decide) (by decide)
  | finite negative significand exponent =>
    exact .append (.ite (by decide) (by decide)) (unbroken_positionalText .plain _)

theorem unbroken_padded (width n : Nat) : Unbroken (Calendar.padded width n) := by
  apply Unbroken.ofList
  rw [List.mem_append, not_or]
  exact ⟨fun h => absurd (List.eq_of_mem_replicate h) (by decide), not_mem_toDigits n⟩

theorem unbroken_instant (instant : Calendar.Instant) : Unbroken instant.text := by
  have hyear : ∀ year : Int, Unbroken (Calendar.yearText year) := by
    intro year
    exact .ite (.append (by decide) (unbroken_padded _ _))
      (.ite (.append (by decide) (unbroken_padded _ _)) (unbroken_padded _ _))
  have hfraction : ∀ nanos : Nat, Unbroken (Calendar.fractionText nanos) := by
    intro nanos
    exact .ite (by decide) (.ite (.append (by decide) (unbroken_padded _ _))
      (.ite (.append (by decide) (unbroken_padded _ _))
        (.append (by decide) (unbroken_padded _ _))))
  have hseparator : Unbroken "-" ∧ Unbroken "T" ∧ Unbroken ":" ∧ Unbroken "Z" := by decide
  obtain ⟨hdash, htime, hcolon, hzulu⟩ := hseparator
  unfold Calendar.Instant.text
  exact (((((((((((hyear _).append hdash).append (unbroken_padded _ _)).append hdash).append
    (unbroken_padded _ _)).append htime).append (unbroken_padded _ _)).append hcolon).append
    (unbroken_padded _ _)).append hcolon).append (unbroken_padded _ _)).append
    (hfraction _) |>.append hzulu

/-! ### Predicates and selections -/

/-- The names and the text constants that the text of a predicate has. -/
def Expr.spelledTexts : Expr → List String
  | .member _ name => [name]
  | .constant (.text text) => [text]
  | .binary _ left right => left.spelledTexts ++ right.spelledTexts
  | _ => []

theorem unbroken_keyword {operator : Operator} {keyword : String}
    (h : operator.keyword = .ok keyword) : Unbroken keyword := by
  cases operator <;> cases h <;> decide

theorem unbroken_literal {value : Value} {literal : String} (h : value.literal = .ok literal)
    (htexts : ∀ text ∈ (Expr.constant value).spelledTexts, Unbroken text) : Unbroken literal := by
  cases value with
  | null =>
    rw [← Except.ok.inj h]
    decide
  | bool value =>
    rw [← Except.ok.inj h]
    exact .ite (by decide) (by decide)
  | int value =>
    rw [← Except.ok.inj h]
    exact unbroken_int value.toInt
  | float value =>
    rw [← Except.ok.inj h]
    exact unbroken_float value
  | text value =>
    rw [← Except.ok.inj h]
    have hvalue : Unbroken value := htexts value List.mem_cons_self
    exact .append (.append (by decide) hvalue) (by decide)
  | instant value =>
    rw [← Except.ok.inj h]
    exact unbroken_instant value
  | record fields => cases h

/-- The text of a predicate has no ampersand but in a name or a text constant. -/
theorem unbroken_predicateText {predicate : Expr} {text : String}
    (h : predicate.predicateText = .ok text)
    (htexts : ∀ text ∈ predicate.spelledTexts, Unbroken text) : Unbroken text := by
  induction predicate using Expr.predicateText.induct generalizing text with
  | case1 => cases h
  | case2 name =>
    cases h
    exact htexts name List.mem_cons_self
  | case3 target name hne =>
    rw [Expr.predicateText] at h
    · cases h
    · exact hne
  | case4 value => exact unbroken_literal h htexts
  | case5 operator left right ihleft ihright =>
    -- both sides and the word between them, in parentheses
    rw [Expr.predicateText] at h
    obtain ⟨keyword, hkeyword, h⟩ := bind_eq_ok.mp h
    obtain ⟨leftText, hleft, h⟩ := bind_eq_ok.mp h
    obtain ⟨rightText, hright, h⟩ := bind_eq_ok.mp h
    cases h
    have hl := ihleft hleft fun text htext => htexts text (List.mem_append_left _ htext)
    have hr := ihright hright fun text htext => htexts text (List.mem_append_right _ htext)
    have hk := unbroken_keyword hkeyword
    exact .append (.append (.append (.append (.append (.append (by decide) hl) (by decide)) hk)
      (by decide)) hr) (by decide)
  -- calls, captures and constructions have no text
  | case6 => cases h
  | case7 => cases h
  | case8 => cases h

theorem unbroken_intercalate {separator : String} (hseparator : Unbroken separator)
    {texts : List String} (htexts : ∀ text ∈ texts, Unbroken text) :
    Unbroken (String.intercalate separator texts) := by
  induction texts with
  | nil =>
    rw [String.intercalate_nil]
    decide
  | cons text rest ih =>
    have htext := htexts text List.mem_cons_self
    have hrest := ih fun other hother => htexts other (List.mem_cons_of_mem _ hother)
    cases rest with
    | nil =>
      rw [String.intercalate_singleton]
      exact htext
    | cons other rest =>
      rw [String.intercalate_cons_cons]
      exact .append (.append htext hseparator) hrest

/-! ### Clauses -/

/-- A clause of a query: its word and a text without ampersands. -/
def IsClause (clause : String) : Prop :=
  ∃ word ∈ ["where=", "select=", "include="], ∃ text, Unbroken text ∧ clause = word ++ text

/-- A word with a text without ampersands behind it is found again. -/
theorem isSolid_append {word text : String} (hword : Unbroken word) (hne : word.toList ≠ [])
    (htext : Unbroken text) : Address.IsSolid (word ++ text).toList := by
  refine ⟨?_, hword.append htext⟩
  rw [String.toList_append]
  exact List.append_ne_nil_of_left_ne_nil hne _

theorem IsClause.isSolid {clause : String} (h : IsClause clause) :
    Address.IsSolid clause.toList := by
  obtain ⟨word, hword, text, htext, rfl⟩ := h
  have hplain : Unbroken word ∧ word.toList ≠ [] := by
    simp only [List.mem_cons, List.not_mem_nil, or_false] at hword
    rcases hword with rfl | rfl | rfl <;> decide
  exact isSolid_append hplain.1 hplain.2 htext

/-- The parameters for paging are none of the clauses. -/
theorem IsClause.not_hasName {clause : String} (h : IsClause clause) {name : String}
    (hname : name ∈ ["count", "startIndex"]) :
    Address.hasName name.toList clause.toList = false := by
  obtain ⟨word, hword, text, -, rfl⟩ := h
  rw [String.toList_append]
  simp only [List.mem_cons, List.not_mem_nil, or_false] at hword hname
  rcases hword with rfl | rfl | rfl <;> rcases hname with rfl | rfl <;> rfl

/-- The names and the text constants that the clauses of a chain have. -/
def Chain.spelledTexts : Chain → List String
  | .source _ => []
  | .filter input predicate => input.spelledTexts ++ predicate.spelledTexts
  | .project input selector => input.spelledTexts ++ selector.directMembers
  | .related input member => input.spelledTexts ++ [member]

theorem isClause_of_clauses {chain : Chain} {clauses : Clauses} (h : chain.clauses = .ok clauses)
    (htexts : ∀ text ∈ chain.spelledTexts, Unbroken text) :
    ∀ clause ∈ clauses.items, IsClause clause := by
  induction chain generalizing clauses with
  | source kind =>
    cases h
    intro clause hclause
    cases hclause
  | related input member ih =>
    exact ih h fun text htext => htexts text (List.mem_append_left _ htext)
  | filter input predicate ih =>
    obtain ⟨before, hbefore, h⟩ := bind_eq_ok.mp h
    have hinput := ih hbefore fun text htext => htexts text (List.mem_append_left _ htext)
    cases hprojector : before.projector.isSome with
    | true =>
      -- nothing may follow a projection
      simp only [hprojector, if_true] at h
      cases h
    | false =>
      simp only [hprojector, Bool.false_eq_true, if_false] at h
      obtain ⟨text, htext, h⟩ := bind_eq_ok.mp h
      cases h
      have hunbroken : Unbroken text := unbroken_predicateText htext fun text htext =>
        htexts text (List.mem_append_right _ htext)
      have hwhere : IsClause ("where=" ++ text) := ⟨"where=", by simp, text, hunbroken, rfl⟩
      exact List.forall_mem_append.mpr ⟨hinput, List.forall_mem_singleton.mpr hwhere⟩
  | project input selector ih =>
    obtain ⟨before, hbefore, h⟩ := bind_eq_ok.mp h
    have hinput := ih hbefore fun text htext => htexts text (List.mem_append_left _ htext)
    cases hprojector : before.projector.isSome with
    | true =>
      -- nothing may follow a projection
      simp only [hprojector, if_true] at h
      cases h
    | false =>
      simp only [hprojector, Bool.false_eq_true, if_false] at h
      cases h
      have hunbroken : Unbroken selector.selectList :=
        unbroken_intercalate (by decide) fun text htext =>
          htexts text (List.mem_append_right _ htext)
      have hselect : IsClause ("select=" ++ selector.selectList) :=
        ⟨"select=", by simp, selector.selectList, hunbroken, rfl⟩
      exact List.forall_mem_append.mpr ⟨hinput, List.forall_mem_singleton.mpr hselect⟩

theorem unbroken_relatedMembers {chain : Chain}
    (htexts : ∀ text ∈ chain.spelledTexts, Unbroken text) :
    ∀ member ∈ chain.relatedMembers, Unbroken member := by
  induction chain with
  | source kind =>
    intro member hmember
    cases hmember
  | filter input predicate ih =>
    exact ih fun text htext => htexts text (List.mem_append_left _ htext)
  | project input selector ih =>
    exact ih fun text htext => htexts text (List.mem_append_left _ htext)
  | related input last ih =>
    have hinput := ih fun text htext => htexts text (List.mem_append_left _ htext)
    have hlast : ∀ member ∈ [last], Unbroken member :=
      fun member hmember => htexts member (List.mem_append_right _ hmember)
    exact List.forall_mem_append.mpr ⟨hinput, hlast⟩

/-- The target of a chain is the address of its resources with clauses behind it, each of which is
    found again. -/
theorem target_eq_appendClauses {site : Site} {chain : Chain} {target : Target}
    (h : site.target chain = .ok target)
    (htexts : ∀ text ∈ chain.spelledTexts, Unbroken text) :
    ∃ path clauses, site.resolver.pathOf chain.kind = .ok path ∧
      target.url = appendClauses (site.baseUrl ++ "/-/" ++ path) clauses ∧
      ∀ clause ∈ clauses, IsClause clause := by
  unfold Site.target at h
  obtain ⟨address, haddress, h⟩ := bind_eq_ok.mp h
  obtain ⟨clauses, hclauses, h⟩ := bind_eq_ok.mp h
  cases h
  unfold Site.collectionUrl at haddress
  cases hpath : site.resolver.pathOf chain.kind with
  | error failure =>
    rw [hpath] at haddress
    cases haddress
  | ok path =>
    rw [hpath] at haddress
    cases haddress
    refine ⟨path, _, rfl, rfl, List.forall_mem_append.mpr ⟨?_, ?_⟩⟩
    · exact isClause_of_clauses hclauses htexts
    · -- related resources are named together, in one clause at the end
      intro clause hclause
      by_cases hempty : chain.relatedMembers.isEmpty = true
      · rw [if_pos hempty] at hclause
        cases hclause
      · rw [if_neg hempty] at hclause
        rw [List.mem_singleton.mp hclause]
        have hunbroken : Unbroken (String.intercalate "," chain.relatedMembers) :=
          unbroken_intercalate (by decide) (unbroken_relatedMembers htexts)
        exact ⟨"include=", by simp, _, hunbroken, rfl⟩

end ResourceFeed
