import ResourceFeed.Client.Operations
import ResourceFeed.Proofs.Query.Folding
import ResourceFeed.Proofs.Query.Layers

/-! # Predicates that a server can evaluate

    A filter is folded before it is sent.  What is left of its predicate must
    be made of nodes that have a text, and so must be the constants that took
    the place of its closed parts:

    - a closed part needs a value, and one with a spelling;
    - every other node must be an operator of the server or a member of the
      element.

    `InfixText` says which text the predicate then has, in terms of the
    predicate as it was written.  The main statement is
    `filter_is_pushed_iff`.
-/

namespace ResourceFeed

namespace Expr

/-! ### The text of a predicate as written -/

/-- A node that a server evaluates: one of its operators, or a member of the element. -/
def IsTranslatable (node : Expr) : Prop :=
  (∃ operator left right, node = .binary operator left right ∧
    operator ∈ Operator.translatable) ∨ ∃ name, node = .field name

/-- A closed part that can be sent: it has a value, and the value is no record. -/
def HasLiteral (part : Expr) : Prop :=
  ∃ value, part.evaluate none = .ok value ∧ value.type ≠ .record

/-- The infix text of a predicate, with parentheses around every operator that is left and with
    the spelling of its value for every closed part. -/
inductive InfixText : Expr → String → Prop where
  /-- A closed part is spelled as its value. -/
  | literal {expr : Expr} {value : Value} {text : String} (hclosed : expr.isClosed = true)
      (hvalue : expr.evaluate none = .ok value) (htext : value.literal = .ok text) :
      InfixText expr text
  | field (name : String) : InfixText (.field name) name
  | binary {operator : Operator} {left right : Expr} {word leftText rightText : String}
      (hopen : (Expr.binary operator left right).isClosed = false)
      (hword : operator.keyword = .ok word)
      (hleft : InfixText left leftText) (hright : InfixText right rightText) :
      InfixText (.binary operator left right)
        ("(" ++ leftText ++ " " ++ word ++ " " ++ rightText ++ ")")

theorem infixText_iff_of_isClosed {expr : Expr} (hclosed : expr.isClosed = true) {text : String} :
    expr.InfixText text ↔ ∃ value, expr.evaluate none = .ok value ∧ value.literal = .ok text := by
  constructor
  · intro h
    cases h with
    | literal _ hvalue htext => exact ⟨_, hvalue, htext⟩
    | field => cases hclosed
    | binary hopen => simp [hopen] at hclosed
  · rintro ⟨value, hvalue, htext⟩
    exact .literal hclosed hvalue htext

theorem infixText_binary_iff {operator : Operator} {left right : Expr}
    (hopen : (Expr.binary operator left right).isClosed = false) {text : String} :
    (Expr.binary operator left right).InfixText text ↔
      ∃ word leftText rightText, operator.keyword = .ok word ∧ left.InfixText leftText ∧
        right.InfixText rightText ∧
        text = "(" ++ leftText ++ " " ++ word ++ " " ++ rightText ++ ")" := by
  constructor
  · intro h
    cases h with
    | literal hclosed => simp [hopen] at hclosed
    | binary _ hword hleft hright => exact ⟨_, _, _, hword, hleft, hright, rfl⟩
  · rintro ⟨word, leftText, rightText, hword, hleft, hright, rfl⟩
    exact .binary hopen hword hleft hright

/-! ### Predicates that have a text -/

/-- Every closed part can be sent, and the server evaluates every other node. -/
def IsPushable (predicate : Expr) : Prop :=
  (∀ part ∈ predicate.closedParts, part.HasLiteral) ∧
    ∀ node ∈ predicate.nodes, node.isClosed = false → node.IsTranslatable

theorem exists_literal_iff {value : Value} :
    (∃ text, value.literal = .ok text) ↔ value.type ≠ .record := by
  cases value <;> simp [Value.literal, Value.type]

theorem isPushable_iff_of_isClosed {expr : Expr} (hclosed : expr.isClosed = true) :
    expr.IsPushable ↔ expr.HasLiteral := by
  rw [IsPushable, closedParts_of_isClosed hclosed, List.forall_mem_singleton]
  refine ⟨And.left, fun h => ⟨h, fun node hnode hopen => ?_⟩⟩
  simp [isClosed_of_mem_nodes expr hclosed node hnode] at hopen

theorem not_isPushable {expr : Expr} (hopen : expr.isClosed = false)
    (hnode : ¬ expr.IsTranslatable) : ¬ expr.IsPushable :=
  fun h => hnode (h.2 expr (self_mem_nodes expr) hopen)

theorem isPushable_field (name : String) : (field name).IsPushable := by
  refine ⟨?_, fun node hnode _ => ?_⟩
  · have hnone : (field name).closedParts = [] := rfl
    rw [hnone]
    exact List.forall_mem_nil _
  · rw [nodes_field, List.mem_singleton] at hnode
    exact .inr ⟨name, hnode⟩

theorem isTranslatable_binary_iff {operator : Operator} {left right : Expr} :
    (Expr.binary operator left right).IsTranslatable ↔ operator ∈ Operator.translatable := by
  constructor
  · rintro (⟨_, _, _, h, hoperator⟩ | ⟨_, h⟩)
    · cases h
      exact hoperator
    · cases h
  · exact fun hoperator => .inl ⟨operator, left, right, rfl, hoperator⟩

theorem isPushable_binary_iff {operator : Operator} {left right : Expr}
    (hopen : (Expr.binary operator left right).isClosed = false) :
    (Expr.binary operator left right).IsPushable ↔
      operator ∈ Operator.translatable ∧ left.IsPushable ∧ right.IsPushable := by
  simp only [IsPushable]
  rw [closedParts_binary hopen, nodes, List.forall_mem_append, List.forall_mem_cons,
    List.forall_mem_append, isTranslatable_binary_iff]
  simp only [hopen, forall_const]
  constructor
  · rintro ⟨⟨hleft, hright⟩, hoperator, hleftNodes, hrightNodes⟩
    exact ⟨hoperator, ⟨hleft, hleftNodes⟩, hright, hrightNodes⟩
  · rintro ⟨hoperator, ⟨hleft, hleftNodes⟩, hright, hrightNodes⟩
    exact ⟨⟨hleft, hright⟩, hoperator, hleftNodes, hrightNodes⟩

/-- Induction on a predicate down to its closed parts.  Operators of any sort are taken apart; what
    else depends on the element, and is no member of it, is left as a whole. -/
@[elab_as_elim]
theorem predicate_induction {motive : Expr → Prop}
    (closed : ∀ expr : Expr, expr.isClosed = true → motive expr)
    (field : ∀ name, motive (.field name))
    (binary : ∀ operator left right, (Expr.binary operator left right).isClosed = false →
      motive left → motive right → motive (.binary operator left right))
    (other : ∀ expr : Expr, expr.isClosed = false →
      (∀ operator left right, expr ≠ .binary operator left right) →
      (∀ name, expr ≠ .field name) → motive expr)
    (predicate : Expr) : motive predicate := by
  induction predicate using Expr.predicateText.induct with
  | case2 name => exact field name
  | case5 operator left right ihleft ihright =>
    by_cases hclosed : (Expr.binary operator left right).isClosed = true
    · exact closed _ hclosed
    · exact binary operator left right (by simpa using hclosed) ihleft ihright
  | case3 target name hne =>
    by_cases hclosed : (Expr.member target name).isClosed = true
    · exact closed _ hclosed
    · refine other _ (by simpa using hclosed) (by simp) fun _ h => ?_
      cases h
      exact hne rfl
  | case1 => exact other _ rfl (by simp) (by simp [Expr.field])
  | case4 value => exact closed _ rfl
  | case7 name value => exact closed _ rfl
  | case6 name function arguments =>
    by_cases hclosed : (Expr.call name function arguments).isClosed = true
    · exact closed _ hclosed
    · exact other _ (by simpa using hclosed) (by simp) (by simp [Expr.field])
  | case8 fields =>
    by_cases hclosed : (Expr.construct fields).isClosed = true
    · exact closed _ hclosed
    · exact other _ (by simpa using hclosed) (by simp) (by simp [Expr.field])

/-- The predicates with an infix text are those whose parts the server can take. -/
theorem exists_infixText_iff (predicate : Expr) :
    (∃ text, predicate.InfixText text) ↔ predicate.IsPushable := by
  induction predicate using predicate_induction with
  | closed expr hclosed =>
    rw [isPushable_iff_of_isClosed hclosed]
    simp only [infixText_iff_of_isClosed hclosed]
    constructor
    · rintro ⟨text, value, hvalue, htext⟩
      exact ⟨value, hvalue, exists_literal_iff.mp ⟨text, htext⟩⟩
    · rintro ⟨value, hvalue, htype⟩
      obtain ⟨text, htext⟩ := exists_literal_iff.mpr htype
      exact ⟨text, value, hvalue, htext⟩
  | field name => exact iff_of_true ⟨name, .field name⟩ (isPushable_field name)
  | binary operator left right hopen ihleft ihright =>
    rw [isPushable_binary_iff hopen, ← ihleft, ← ihright, ← Operator.exists_keyword_iff]
    simp only [infixText_binary_iff hopen]
    constructor
    · rintro ⟨_, word, leftText, rightText, hword, hleft, hright, -⟩
      exact ⟨⟨word, hword⟩, ⟨leftText, hleft⟩, ⟨rightText, hright⟩⟩
    · rintro ⟨⟨word, hword⟩, ⟨leftText, hleft⟩, ⟨rightText, hright⟩⟩
      exact ⟨_, word, leftText, rightText, hword, hleft, hright, rfl⟩
  | other expr hopen hbinary hfield =>
    -- such a node is itself one that the server does not evaluate
    have hnode : ¬ expr.IsTranslatable := by
      rintro (⟨operator, left, right, h, -⟩ | ⟨name, h⟩)
      · exact hbinary operator left right h
      · exact hfield name h
    refine iff_of_false ?_ (not_isPushable hopen hnode)
    rintro ⟨text, h⟩
    cases h with
    | literal hclosed => simp [hopen] at hclosed
    | field => exact hfield text rfl
    | binary => exact hbinary _ _ _ rfl

/-! ### The text of the folded predicate -/

/-- The text of what a predicate is folded to. -/
def foldedText (predicate : Expr) : Except Failure String :=
  predicate.fold.outcome >>= fun folded => folded.predicateText

theorem foldedText_iff_of_isClosed {expr : Expr} (hclosed : expr.isClosed = true) {text : String} :
    expr.foldedText = .ok text ↔
      ∃ value, expr.evaluate none = .ok value ∧ value.literal = .ok text := by
  rw [foldedText, fold_of_isClosed hclosed, bind_eq_ok]
  constructor
  · rintro ⟨folded, hfold, htext⟩
    obtain ⟨value, hvalue, hfolded⟩ := Run.outcome_bind_eq_ok.mp hfold
    cases hfolded
    exact ⟨value, hvalue, htext⟩
  · rintro ⟨value, hvalue, htext⟩
    exact ⟨.constant value, Run.outcome_bind_eq_ok.mpr ⟨value, hvalue, rfl⟩, htext⟩

theorem predicateText_binary_iff {operator : Operator} {left right : Expr} {text : String} :
    (Expr.binary operator left right).predicateText = .ok text ↔
      ∃ word leftText rightText, operator.keyword = .ok word ∧
        left.predicateText = .ok leftText ∧ right.predicateText = .ok rightText ∧
        text = "(" ++ leftText ++ " " ++ word ++ " " ++ rightText ++ ")" := by
  rw [predicateText]
  constructor
  · intro h
    obtain ⟨word, hword, h⟩ := bind_eq_ok.mp h
    obtain ⟨leftText, hleft, h⟩ := bind_eq_ok.mp h
    obtain ⟨rightText, hright, h⟩ := bind_eq_ok.mp h
    cases h
    exact ⟨word, leftText, rightText, hword, hleft, hright, rfl⟩
  · rintro ⟨word, leftText, rightText, hword, hleft, hright, rfl⟩
    rw [hword, hleft, hright]
    rfl

theorem foldedText_binary_iff {operator : Operator} {left right : Expr}
    (hopen : (Expr.binary operator left right).isClosed = false) {text : String} :
    (Expr.binary operator left right).foldedText = .ok text ↔
      ∃ word leftText rightText, operator.keyword = .ok word ∧ left.foldedText = .ok leftText ∧
        right.foldedText = .ok rightText ∧
        text = "(" ++ leftText ++ " " ++ word ++ " " ++ rightText ++ ")" := by
  rw [foldedText, fold_binary hopen, bind_eq_ok]
  constructor
  · rintro ⟨folded, hfold, htext⟩
    obtain ⟨left', hleft, hfold⟩ := Run.outcome_bind_eq_ok.mp hfold
    obtain ⟨right', hright, hfolded⟩ := Run.outcome_bind_eq_ok.mp hfold
    cases hfolded
    obtain ⟨word, leftText, rightText, hword, hleftText, hrightText, rfl⟩ :=
      predicateText_binary_iff.mp htext
    exact ⟨word, leftText, rightText, hword, bind_eq_ok.mpr ⟨left', hleft, hleftText⟩,
      bind_eq_ok.mpr ⟨right', hright, hrightText⟩, rfl⟩
  · rintro ⟨word, leftText, rightText, hword, hleft, hright, rfl⟩
    obtain ⟨left', hleft, hleftText⟩ := bind_eq_ok.mp hleft
    obtain ⟨right', hright, hrightText⟩ := bind_eq_ok.mp hright
    refine ⟨.binary operator left' right', Run.outcome_bind_eq_ok.mpr ⟨left', hleft,
      Run.outcome_bind_eq_ok.mpr ⟨right', hright, rfl⟩⟩, ?_⟩
    exact predicateText_binary_iff.mpr
      ⟨word, leftText, rightText, hword, hleftText, hrightText, rfl⟩

/-- Only the element itself is folded to the element. -/
theorem fold_ne_element {expr folded : Expr} (h : expr ≠ .element)
    (hfold : expr.fold.outcome = .ok folded) : folded ≠ .element := by
  rintro rfl
  rw [fold.eq_def] at hfold
  split at hfold
  · -- a closed expression becomes a constant
    obtain ⟨_, _, hfolded⟩ := Run.outcome_bind_eq_ok.mp hfold
    cases hfolded
  · -- any other keeps its constructor
    cases expr with
    | element => exact h rfl
    | member | call | construct =>
      obtain ⟨_, _, hfolded⟩ := Run.outcome_bind_eq_ok.mp hfold
      cases hfolded
    | binary =>
      obtain ⟨_, _, hfold⟩ := Run.outcome_bind_eq_ok.mp hfold
      obtain ⟨_, _, hfolded⟩ := Run.outcome_bind_eq_ok.mp hfold
      cases hfolded
    | constant | capture => cases hfold

theorem foldedText_field (name : String) : (field name).foldedText = .ok name := rfl

/-- What depends on the element, and is neither an operator nor a member of it, is folded to
    something that has no text. -/
theorem foldedText_ne_ok {expr : Expr} (hopen : expr.isClosed = false)
    (hbinary : ∀ operator left right, expr ≠ .binary operator left right)
    (hfield : ∀ name, expr ≠ .field name) (text : String) : expr.foldedText ≠ .ok text := by
  intro h
  obtain ⟨folded, hfold, htext⟩ := bind_eq_ok.mp h
  rw [fold.eq_def, if_neg (by simp [hopen])] at hfold
  cases expr with
  | element =>
    cases hfold
    cases htext
  | member target name =>
    obtain ⟨target', htarget, hfolded⟩ := Run.outcome_bind_eq_ok.mp hfold
    cases hfolded
    -- a member of anything but the element stays one, whatever its target is folded to
    have helement : target ≠ .element := fun h => hfield name (h ▸ rfl)
    rw [predicateText] at htext
    · cases htext
    · exact fold_ne_element helement htarget
  | constant value => cases hopen
  | binary operator left right => exact hbinary operator left right rfl
  | call name function arguments =>
    obtain ⟨_, _, hfolded⟩ := Run.outcome_bind_eq_ok.mp hfold
    cases hfolded
    cases htext
  | capture name value => cases hopen
  | construct fields =>
    obtain ⟨_, _, hfolded⟩ := Run.outcome_bind_eq_ok.mp hfold
    cases hfolded
    cases htext

/-- The folded predicate has the infix text of the predicate as it was written. -/
theorem foldedText_iff (predicate : Expr) (text : String) :
    predicate.foldedText = .ok text ↔ predicate.InfixText text := by
  induction predicate using predicate_induction generalizing text with
  | closed expr hclosed =>
    rw [foldedText_iff_of_isClosed hclosed, infixText_iff_of_isClosed hclosed]
  | field name =>
    rw [foldedText_field]
    constructor
    · intro h
      cases h
      exact .field name
    · intro h
      cases h with
      | literal hclosed => cases hclosed
      | field => rfl
  | binary operator left right hopen ihleft ihright =>
    simp only [foldedText_binary_iff hopen, infixText_binary_iff hopen, ihleft, ihright]
  | other expr hopen hbinary hfield =>
    refine iff_of_false (foldedText_ne_ok hopen hbinary hfield text) fun h => ?_
    cases h with
    | literal hclosed => simp [hopen] at hclosed
    | field => exact hfield text rfl
    | binary => exact hbinary _ _ _ rfl

end Expr

/-! ### Filters -/

/-- The target of a single filter is the address of the resources with the predicate behind it. -/
theorem Site.target_filter {site : Site} {kind path : String}
    (hpath : site.resolver.pathOf kind = .ok path) (predicate : Expr) :
    site.target (.filter (.source kind) predicate) =
      predicate.predicateText >>= fun text =>
        .ok ⟨site.baseUrl ++ "/-/" ++ path ++ "?where=" ++ text, none⟩ := by
  have hkind : (Chain.filter (.source kind) predicate).kind = kind := rfl
  have hoffence : (Chain.filter (.source kind) predicate).offence? = predicate.firstUnsupported? :=
    Option.or_none
  have hmark : "?where=" = "?" ++ "where=" := rfl
  have hquery : queryText ["where=" ++ predicate.text] = "?where=" ++ predicate.text := by
    rw [queryText, if_neg (by simp), String.intercalate_singleton, hmark, String.append_assoc]
  rw [site.target_eq, hkind, hpath, hoffence, predicate.predicateText_eq]
  cases predicate.firstUnsupported? with
  | some failure => rfl
  | none =>
    have hurl : site.baseUrl ++ "/-/" ++ path ++ queryText ["where=" ++ predicate.text]
        = site.baseUrl ++ "/-/" ++ path ++ "?where=" ++ predicate.text := by
      rw [hquery]
      exact String.append_assoc.symm
    exact congrArg (fun url => Except.ok (Target.mk url none)) hurl

/-- A client folds the predicate of a filter before it looks for the target. -/
theorem Client.target_filter {client : Client} {kind path : String}
    (hpath : client.resolver.pathOf kind = .ok path) {predicate : Expr}
    (hopen : predicate.isClosed = false) :
    (client.target (.filter (.source kind) predicate)).outcome =
      predicate.foldedText >>= fun text =>
        .ok ⟨client.site.baseUrl ++ "/-/" ++ path ++ "?where=" ++ text, none⟩ := by
  have hsimplify : predicate.simplify = predicate.fold := by
    rw [Expr.simplify, if_neg (by simp [hopen])]
  simp only [Client.target, Chain.fold, Run.outcome_bind, hsimplify, Expr.foldedText]
  cases predicate.fold.outcome with
  | error failure => rfl
  | ok folded => exact Site.target_filter hpath folded

/-- **Which filters reach the server**: a filter that depends on the element has a target if and
    only if every largest closed part of its predicate has a value other than a record, and every
    other node is an operator of the server or a member of the element.  The target then has the
    infix text of the predicate in which every such part is spelled as its value. -/
theorem filter_is_pushed_iff {client : Client} {kind path : String}
    (hpath : client.resolver.pathOf kind = .ok path) {predicate : Expr}
    (hopen : predicate.isClosed = false) :
    ((∃ target, (client.target (.filter (.source kind) predicate)).outcome = .ok target) ↔
      (∀ part ∈ predicate.closedParts,
        ∃ value, part.evaluate none = .ok value ∧ value.type ≠ .record) ∧
      ∀ node ∈ predicate.nodes, node.isClosed = false →
        (∃ operator left right, node = .binary operator left right ∧
          operator ∈ Operator.translatable) ∨ ∃ name, node = .field name) ∧
    ∀ target, (client.target (.filter (.source kind) predicate)).outcome = .ok target →
      ∃ text, predicate.InfixText text ∧
        target = ⟨client.site.baseUrl ++ "/-/" ++ path ++ "?where=" ++ text, none⟩ := by
  have htarget : ∀ target,
      (client.target (.filter (.source kind) predicate)).outcome = .ok target ↔
        ∃ text, predicate.InfixText text ∧
          target = ⟨client.site.baseUrl ++ "/-/" ++ path ++ "?where=" ++ text, none⟩ := by
    intro target
    rw [Client.target_filter hpath hopen, bind_eq_ok]
    simp only [Expr.foldedText_iff, Except.ok.injEq]
    exact exists_congr fun text => and_congr_right fun _ => eq_comm
  refine ⟨?_, fun target h => (htarget target).mp h⟩
  have hpushable := Expr.exists_infixText_iff predicate
  constructor
  · rintro ⟨target, h⟩
    obtain ⟨text, htext, -⟩ := (htarget target).mp h
    exact hpushable.mp ⟨text, htext⟩
  · intro h
    obtain ⟨text, htext⟩ := hpushable.mpr h
    exact ⟨_, (htarget _).mpr ⟨text, htext, rfl⟩⟩

/-- A client that knows contacts. -/
def contactsClient : Client :=
  ⟨Settings.initial, contactsSite⟩

/-- The contacts of a name that is put together in the host program, above an age that is. -/
def namedAndAged : Expr :=
  .binary .and
    (.binary .eq (.field "FirstName")
      (.binary .add (.capture "first" (.text "To")) (.constant (.text "m"))))
    (.binary .gt (.field "Age") (.binary .mul (.constant (.int 20)) (.constant (.int 2))))

/-- The name and the age are sent as literals. -/
theorem filter_is_pushed_of_host_values :
    contactsClient.resolver.pathOf "Contact" = .ok "contacts" ∧
    namedAndAged.isClosed = false ∧
    (contactsClient.target (.filter (.source "Contact") namedAndAged)).outcome = .ok
      ⟨"https://x/sdata/-/contacts?where=((FirstName eq 'Tom') and (Age gt 40))", none⟩ ∧
    (∀ part ∈ namedAndAged.closedParts,
      ∃ value, part.evaluate none = .ok value ∧ value.type ≠ .record) ∧
    ∃ text, namedAndAged.InfixText text ∧
      "https://x/sdata/-/contacts?where=((FirstName eq 'Tom') and (Age gt 40))"
        = "https://x/sdata" ++ "/-/" ++ "contacts" ++ "?where=" ++ text := by
  have hpath : contactsClient.resolver.pathOf "Contact" = .ok "contacts" := rfl
  have htarget : (contactsClient.target (.filter (.source "Contact") namedAndAged)).outcome = .ok
      ⟨"https://x/sdata/-/contacts?where=((FirstName eq 'Tom') and (Age gt 40))", none⟩ := rfl
  obtain ⟨hiff, htext⟩ := filter_is_pushed_iff hpath (rfl : namedAndAged.isClosed = false)
  obtain ⟨text, hinfix, hurl⟩ := htext _ htarget
  exact ⟨hpath, rfl, htarget, (hiff.mp ⟨_, htarget⟩).1, text, hinfix, congrArg Target.url hurl⟩

end ResourceFeed
