import ResourceFeed.Client.Operations
import ResourceFeed.Proofs.Query.Building

/-! # Which fields a selector asks for

    The fields that a server is asked for are the members that the selector
    reads off the element, one for each node that does so.  A closed part has
    no such node, before it is folded and after, and folding changes nothing
    else.  So the list of fields can be read off the selector as it was
    written, although it is the folded one that is sent.
-/

namespace ResourceFeed

namespace Expr

/-! ### Members among the nodes -/

/-- What is read off the element is not closed. -/
theorem directMember?_of_isClosed {expr : Expr} (hclosed : expr.isClosed = true) :
    expr.directMember? = none := by
  unfold directMember?
  split
  · cases hclosed
  · rfl

theorem directMember?_member {target : Expr} (h : target ≠ .element) (name : String) :
    (Expr.member target name).directMember? = none := by
  rw [directMember?]
  rintro other hmember
  exact h (Expr.member.inj hmember).1

mutual

/-- The members read off the element are those of the nodes that do so. -/
theorem directMembers_eq : ∀ expr : Expr, expr.directMembers = expr.nodes.filterMap directMember?
  | .element => rfl
  | .member target name => by
    by_cases helement : target = .element
    · -- here the search stops, and so do the nodes
      subst helement
      rw [← field, nodes_field]
      rfl
    · rw [directMembers_member helement, nodes_member helement,
        List.filterMap_cons_none (directMember?_member helement name), directMembers_eq target]
  | .constant _ => rfl
  | .binary operator left right => by
    have hroot : (Expr.binary operator left right).directMember? = none := rfl
    rw [directMembers, nodes, List.filterMap_cons_none hroot, List.filterMap_append,
      directMembers_eq left, directMembers_eq right]
  | .call name function arguments => by
    have hroot : (Expr.call name function arguments).directMember? = none := rfl
    rw [directMembers, nodes, List.filterMap_cons_none hroot, argumentMembers_eq arguments]
  | .capture _ _ => rfl
  | .construct fields => by
    have hroot : (Expr.construct fields).directMember? = none := rfl
    rw [directMembers, nodes, List.filterMap_cons_none hroot, fieldMembers_eq fields]

/-- The same of the members read in arguments. -/
theorem argumentMembers_eq : ∀ arguments : List Expr,
    argumentMembers arguments = (argumentNodes arguments).filterMap directMember?
  | [] => rfl
  | expr :: rest => by
    rw [argumentMembers, argumentNodes, List.filterMap_append, directMembers_eq expr,
      argumentMembers_eq rest]

/-- The same of the members read in fields. -/
theorem fieldMembers_eq : ∀ fields : List (String × Expr),
    fieldMembers fields = (fieldNodes fields).filterMap directMember?
  | [] => rfl
  | (_, expr) :: rest => by
    rw [fieldMembers, fieldNodes, List.filterMap_append, directMembers_eq expr,
      fieldMembers_eq rest]

end

theorem directMembers_of_isClosed {expr : Expr} (hclosed : expr.isClosed = true) :
    expr.directMembers = [] := by
  rw [directMembers_eq, List.filterMap_eq_nil_iff]
  exact fun node hnode => directMember?_of_isClosed (isClosed_of_mem_nodes expr hclosed node hnode)

/-! ### Members after folding -/

section keeping
variable {change : Expr → Expr}
  (hchange : ∀ part : Expr, part.isClosed = true → (change part).isClosed = true)
include hchange

/-- A part that stays closed does not become the element. -/
theorem mapClosed_ne_element {expr : Expr} (h : expr ≠ .element) :
    expr.mapClosed change ≠ .element := by
  by_cases hclosed : expr.isClosed = true
  · -- the element is not closed
    intro helement
    have hkept := hchange expr hclosed
    rw [← mapClosed_of_isClosed change hclosed, helement] at hkept
    cases hkept
  · -- an open expression keeps its root
    rw [mapClosed.eq_def, if_neg hclosed]
    cases expr with
    | element => exact absurd rfl h
    | _ => exact Expr.noConfusion

/-- If closed parts stay closed, the same members are read in the same order. -/
theorem directMembers_mapClosed (expr : Expr) :
    (expr.mapClosed change).directMembers = expr.directMembers := by
  induction expr using open_induction with
  | closed expr hclosed =>
    rw [mapClosed_of_isClosed change hclosed, directMembers_of_isClosed hclosed,
      directMembers_of_isClosed (hchange expr hclosed)]
  | element => rfl
  | member target name hopen ih =>
    rw [mapClosed_member change hopen]
    by_cases helement : target = .element
    · subst helement
      rfl
    · rw [directMembers_member (mapClosed_ne_element hchange helement), ih,
        directMembers_member helement]
  | binary operator left right hopen ihleft ihright =>
    rw [mapClosed_binary change hopen, directMembers, ihleft, ihright, directMembers]
  | call name function arguments hopen ih =>
    rw [mapClosed_call change hopen, directMembers, directMembers, argumentMembers_eq_flatMap,
      argumentMembers_eq_flatMap, List.flatMap_map]
    exact congrArg List.flatten (List.map_congr_left ih)
  | construct fields hopen ih =>
    rw [mapClosed_construct change hopen, directMembers, directMembers, fieldMembers_eq_flatMap,
      fieldMembers_eq_flatMap, List.flatMap_map]
    exact congrArg List.flatten (List.map_congr_left ih)

end keeping

/-- Folding keeps the list of fields. -/
theorem selectList_simplified (selector : Expr) :
    selector.simplified.selectList = selector.selectList := by
  unfold selectList simplified
  split
  · rfl
  · rw [directMembers_mapClosed fun _ => isClosed_settled]

end Expr

theorem Chain.inclusions_simplified (chain : Chain) :
    chain.simplified.inclusions = chain.inclusions := by
  rw [← relatedMembers_eq, relatedMembers_simplified, relatedMembers_eq]

/-! ### Main statement -/

/-- **The list of fields is that of the selector as written.**  It names the
    members that the nodes of the selector read off the element, from left to
    right and as often as they are read (all parts of the selector are nodes,
    but for the element in such a member), and a selector that folds keeps it.
    So the address that a client finds for a query has the filters as they
    were folded, but the fields of the selector as it was written. -/
theorem fields_asked_for_as_written :
    (∀ selector : Expr,
      selector.selectList =
        String.intercalate "," (selector.nodes.filterMap Expr.directMember?) ∧
      ∀ simplified, selector.simplify.outcome = .ok simplified →
        simplified.selectList = selector.selectList) ∧
    ∀ (client : Client) (chain : Chain) (target : Target),
      (client.target chain).outcome = .ok target →
      ∃ (path : String) (folded : Chain) (texts : List String),
        client.resolver.pathOf chain.kind = .ok path ∧
        chain.fold.outcome = .ok folded ∧
        folded.filters.map Expr.predicateText = texts.map .ok ∧
        target.url = client.site.baseUrl ++ "/-/" ++ path ++
          queryText (texts.map ("where=" ++ ·) ++
            chain.selectors.map (fun selector => "select=" ++
              String.intercalate "," (selector.nodes.filterMap Expr.directMember?)) ++
            inclusionClauses chain.inclusions) := by
  have hlist : ∀ selector : Expr, selector.selectList =
      String.intercalate "," (selector.nodes.filterMap Expr.directMember?) :=
    fun selector => congrArg (String.intercalate ",") selector.directMembers_eq
  refine ⟨fun selector => ⟨hlist selector, fun simplified hsimplified => ?_⟩, ?_⟩
  · rw [Expr.eq_simplified_of_simplify hsimplified, selector.selectList_simplified]
  intro client chain target htarget
  obtain ⟨folded, hfold, htarget⟩ := Run.outcome_bind_eq_ok.mp htarget
  have hsend := (Site.sendable_of_target htarget).1
  rw [Run.ofExcept_outcome, Site.target_eq, Chain.offence?_eq_none_iff _ |>.mpr hsend] at htarget
  obtain ⟨path, hpath, htarget⟩ := bind_eq_ok.mp htarget
  have hfolded := Chain.eq_simplified_of_fold hfold
  refine ⟨path, folded, folded.filters.map Expr.text, ?_, hfold, Chain.map_predicateText hsend, ?_⟩
  · rw [hfolded, Chain.kind_simplified] at hpath
    exact hpath
  · -- the selectors are folded, and ask for the same fields
    have hselects : folded.selectors.map (fun selector => "select=" ++ selector.selectList) =
        chain.selectors.map (fun selector => "select=" ++
          String.intercalate "," (selector.nodes.filterMap Expr.directMember?)) := by
      rw [hfolded, Chain.selectors_simplified, List.map_map]
      exact List.map_congr_left fun selector _ =>
        congrArg ("select=" ++ ·) (selector.selectList_simplified.trans (hlist selector))
    rw [← Except.ok.inj htarget, List.map_map, hselects, hfolded, Chain.inclusions_simplified]
    rfl

/-- The last name of a contact after a word that is put together in the host program, the city, and
    the last name again. -/
def addressed (word : Expr) : Expr :=
  .construct [
    ("Line", .call "line" (fun _ => .ok .null) [word, .field "LastName"]),
    ("City", .member (.field "Address") "City"),
    ("Name", .field "LastName")]

/-- The word is folded, and with it a member that is not read off the element; the fields stay. -/
theorem fields_asked_for_of_addressed :
    (Client.target ⟨Settings.initial, contactsSite⟩ (.project (.source "Contact")
        (addressed (.member (.construct [("To", .capture "word" (.text "Dear"))]) "To")))).outcome =
      .ok ⟨"https://x/sdata/-/contacts?select=LastName,Address,LastName",
        some (addressed (.constant (.text "Dear")))⟩ ∧
    (addressed (.constant (.text "Dear"))).selectList =
      (addressed (.member (.construct [("To", .capture "word" (.text "Dear"))]) "To")).selectList ∧
    ∃ texts : List String, [].map Expr.predicateText = texts.map .ok ∧
      "https://x/sdata/-/contacts?select=LastName,Address,LastName" =
        "https://x/sdata" ++ "/-/" ++ "contacts" ++
          queryText (texts.map ("where=" ++ ·) ++ ["select=" ++ "LastName,Address,LastName"] ++ []) := by
  have htarget : (Client.target ⟨Settings.initial, contactsSite⟩ (.project (.source "Contact")
      (addressed (.member (.construct [("To", .capture "word" (.text "Dear"))]) "To")))).outcome =
      .ok ⟨"https://x/sdata/-/contacts?select=LastName,Address,LastName",
        some (addressed (.constant (.text "Dear")))⟩ := rfl
  obtain ⟨path, folded, texts, hpath, hfold, htexts, hurl⟩ :=
    fields_asked_for_as_written.2 _ _ _ htarget
  cases (hpath : Except.ok "contacts" = .ok path)
  cases hfold
  exact ⟨htarget, (fields_asked_for_as_written.1 _).2 _ rfl, texts, htexts, hurl⟩

end ResourceFeed
