import ResourceFeed.Query.Fold
import ResourceFeed.Query.Predicate

/-! # Nodes and closed parts

    Two readings of an expression as a list, both from left to right.

    - Its *nodes* are its sub-expressions, each before the ones in it.  A
      member of the element is one node together with the element in it.
    - Its *closed parts* are its largest sub-expressions in which the element
      does not occur.

    A node that has no text in a predicate is *unsupported*.  The text of a
    predicate is there if no node is unsupported, and else the first one that
    is tells why not.
-/

namespace ResourceFeed

/-! ### Operators -/

/-- The operators that a predicate on a server may have. -/
def Operator.translatable : List Operator :=
  [.and, .andAlso, .or, .eq, .ne, .lt, .le, .gt, .ge]

theorem Operator.keyword_of_translatable {operator : Operator}
    (h : operator ∈ Operator.translatable) : ∃ word, operator.keyword = .ok word := by
  cases operator
  case add | sub | mul | div => exact absurd h (by decide)
  all_goals exact ⟨_, rfl⟩

theorem Operator.keyword_of_not_translatable {operator : Operator}
    (h : operator ∉ Operator.translatable) :
    operator.keyword = .error (.unsupportedOperator operator.name) := by
  cases operator
  case add | sub | mul | div => rfl
  all_goals exact absurd (by decide) h

theorem Operator.exists_keyword_iff {operator : Operator} :
    (∃ word, operator.keyword = .ok word) ↔ operator ∈ Operator.translatable := by
  refine ⟨?_, Operator.keyword_of_translatable⟩
  rintro ⟨word, hword⟩
  by_cases hoperator : operator ∈ Operator.translatable
  · exact hoperator
  · rw [Operator.keyword_of_not_translatable hoperator] at hword
    cases hword

namespace Expr

/-! ### Lists of arguments and of fields -/

theorem areClosed_eq_all (arguments : List Expr) :
    areClosed arguments = (arguments.map isClosed).all id := by
  induction arguments with
  | nil => rfl
  | cons first rest ih => rw [areClosed, ih, List.map_cons, List.all_cons, id]

theorem fieldsAreClosed_eq_all (fields : List (String × Expr)) :
    fieldsAreClosed fields = (fields.map fun field => field.2.isClosed).all id := by
  induction fields with
  | nil => rfl
  | cons first rest ih => rw [fieldsAreClosed, ih, List.map_cons, List.all_cons, id]

/-! ### Nodes -/

mutual

/-- The nodes of an expression, each before the ones in it, from left to right. -/
def nodes : Expr → List Expr
  | .element => [.element]
  | .member target name =>
    .member target name :: match target with
      | .element => []
      | target => nodes target
  | .constant value => [.constant value]
  | .binary operator left right => .binary operator left right :: (nodes left ++ nodes right)
  | .call name function arguments => .call name function arguments :: argumentNodes arguments
  | .capture name value => [.capture name value]
  | .construct fields => .construct fields :: fieldNodes fields

/-- The nodes of arguments. -/
def argumentNodes : List Expr → List Expr
  | [] => []
  | expr :: rest => nodes expr ++ argumentNodes rest

/-- The nodes of fields. -/
def fieldNodes : List (String × Expr) → List Expr
  | [] => []
  | (_, expr) :: rest => nodes expr ++ fieldNodes rest

end

theorem argumentNodes_eq_flatMap (arguments : List Expr) :
    argumentNodes arguments = arguments.flatMap nodes := by
  induction arguments with
  | nil => rfl
  | cons first rest ih => rw [argumentNodes, ih, List.flatMap_cons]

theorem fieldNodes_eq_flatMap (fields : List (String × Expr)) :
    fieldNodes fields = fields.flatMap fun field => field.2.nodes := by
  induction fields with
  | nil => rfl
  | cons first rest ih => rw [fieldNodes, ih, List.flatMap_cons]

theorem nodes_field (name : String) : (field name).nodes = [field name] := by
  rw [field, nodes]

theorem nodes_member {target : Expr} (h : target ≠ .element) (name : String) :
    (Expr.member target name).nodes = .member target name :: target.nodes := by
  rw [nodes]
  exact h

/-- A node of a member is the member itself or a node of its target. -/
theorem mem_of_mem_nodes_member {node target : Expr} {name : String}
    (h : node ∈ (Expr.member target name).nodes) : node ∈ Expr.member target name :: target.nodes := by
  by_cases helement : target = .element
  · rw [helement, ← field, nodes_field] at h
    exact List.mem_cons.mpr (.inl (helement ▸ List.mem_singleton.mp h))
  · exact nodes_member helement name ▸ h

/-- An expression is the first of its nodes. -/
theorem nodes_eq_cons (expr : Expr) : ∃ rest, expr.nodes = expr :: rest := by
  cases expr with
  | member target name =>
    by_cases helement : target = .element
    · exact ⟨[], helement ▸ nodes_field name⟩
    · exact ⟨target.nodes, nodes_member helement name⟩
  | _ => exact ⟨_, by rw [nodes]⟩

theorem self_mem_nodes (expr : Expr) : expr ∈ expr.nodes := by
  obtain ⟨rest, hnodes⟩ := nodes_eq_cons expr
  rw [hnodes]
  exact List.mem_cons_self

mutual

/-- The element occurs in no node of a closed expression. -/
theorem isClosed_of_mem_nodes : ∀ expr : Expr, expr.isClosed = true →
    ∀ node ∈ expr.nodes, node.isClosed = true
  | .element, h, _, _ => by simp [isClosed] at h
  | .member target name, h, node, hnode => by
    have helement : target ≠ .element := by
      rintro rfl
      cases h
    rw [nodes_member helement] at hnode
    rcases List.mem_cons.mp hnode with rfl | hnode
    · exact h
    · exact isClosed_of_mem_nodes target h node hnode
  | .constant _, h, node, hnode => by
    rw [nodes] at hnode
    exact List.mem_singleton.mp hnode ▸ h
  | .binary operator left right, h, node, hnode => by
    have hsides := h
    simp only [isClosed, Bool.and_eq_true] at hsides
    rw [nodes] at hnode
    rcases List.mem_cons.mp hnode with rfl | hnode
    · exact h
    · rcases List.mem_append.mp hnode with hnode | hnode
      · exact isClosed_of_mem_nodes left hsides.1 node hnode
      · exact isClosed_of_mem_nodes right hsides.2 node hnode
  | .call name function arguments, h, node, hnode => by
    rw [nodes] at hnode
    rcases List.mem_cons.mp hnode with rfl | hnode
    · exact h
    · exact isClosed_of_mem_argumentNodes arguments h node hnode
  | .capture _ _, h, node, hnode => by
    rw [nodes] at hnode
    exact List.mem_singleton.mp hnode ▸ h
  | .construct fields, h, node, hnode => by
    rw [nodes] at hnode
    rcases List.mem_cons.mp hnode with rfl | hnode
    · exact h
    · exact isClosed_of_mem_fieldNodes fields h node hnode

/-- The element occurs in no node of closed arguments. -/
theorem isClosed_of_mem_argumentNodes : ∀ arguments : List Expr, areClosed arguments = true →
    ∀ node ∈ argumentNodes arguments, node.isClosed = true
  | [], _, _, hnode => by cases hnode
  | expr :: rest, h, node, hnode => by
    simp only [areClosed, Bool.and_eq_true] at h
    rw [argumentNodes] at hnode
    rcases List.mem_append.mp hnode with hnode | hnode
    · exact isClosed_of_mem_nodes expr h.1 node hnode
    · exact isClosed_of_mem_argumentNodes rest h.2 node hnode

/-- The element occurs in no node of closed fields. -/
theorem isClosed_of_mem_fieldNodes : ∀ fields : List (String × Expr),
    fieldsAreClosed fields = true → ∀ node ∈ fieldNodes fields, node.isClosed = true
  | [], _, _, hnode => by cases hnode
  | (_, expr) :: rest, h, node, hnode => by
    simp only [fieldsAreClosed, Bool.and_eq_true] at h
    rw [fieldNodes] at hnode
    rcases List.mem_append.mp hnode with hnode | hnode
    · exact isClosed_of_mem_nodes expr h.1 node hnode
    · exact isClosed_of_mem_fieldNodes rest h.2 node hnode

end

mutual

/-- The nodes of a node are nodes of the expression. -/
theorem nodes_subset : ∀ expr node : Expr, node ∈ expr.nodes → node.nodes ⊆ expr.nodes
  | .element, node, hnode => by
    rw [nodes] at hnode
    cases List.mem_singleton.mp hnode
    exact List.Subset.refl _
  | .member target name, node, hnode => by
    by_cases helement : target = .element
    · rw [helement, ← field, nodes_field] at hnode
      cases List.mem_singleton.mp hnode
      rw [helement, field]
      exact List.Subset.refl _
    · rw [nodes_member helement] at hnode
      rcases List.mem_cons.mp hnode with rfl | hnode
      · exact List.Subset.refl _
      · rw [nodes_member helement]
        exact List.subset_cons_of_subset _ (nodes_subset target node hnode)
  | .constant _, node, hnode => by
    rw [nodes] at hnode
    cases List.mem_singleton.mp hnode
    exact List.Subset.refl _
  | .binary operator left right, node, hnode => by
    have hnodes := hnode
    rw [nodes] at hnodes
    rcases List.mem_cons.mp hnodes with rfl | hnodes
    · exact List.Subset.refl _
    · rw [nodes]
      refine List.subset_cons_of_subset _ ?_
      rcases List.mem_append.mp hnodes with hleft | hright
      · exact List.subset_append_of_subset_left _ (nodes_subset left node hleft)
      · exact List.subset_append_of_subset_right _ (nodes_subset right node hright)
  | .call name function arguments, node, hnode => by
    have hnodes := hnode
    rw [nodes] at hnodes
    rcases List.mem_cons.mp hnodes with rfl | hnodes
    · exact List.Subset.refl _
    · rw [nodes]
      exact List.subset_cons_of_subset _ (argumentNodes_subset arguments node hnodes)
  | .capture _ _, node, hnode => by
    rw [nodes] at hnode
    cases List.mem_singleton.mp hnode
    exact List.Subset.refl _
  | .construct fields, node, hnode => by
    have hnodes := hnode
    rw [nodes] at hnodes
    rcases List.mem_cons.mp hnodes with rfl | hnodes
    · exact List.Subset.refl _
    · rw [nodes]
      exact List.subset_cons_of_subset _ (fieldNodes_subset fields node hnodes)

/-- The nodes of a node are nodes of the arguments. -/
theorem argumentNodes_subset : ∀ (arguments : List Expr) (node : Expr),
    node ∈ argumentNodes arguments → node.nodes ⊆ argumentNodes arguments
  | [], _, hnode => by cases hnode
  | expr :: rest, node, hnode => by
    rw [argumentNodes] at hnode ⊢
    rcases List.mem_append.mp hnode with hfirst | hrest
    · exact List.subset_append_of_subset_left _ (nodes_subset expr node hfirst)
    · exact List.subset_append_of_subset_right _ (argumentNodes_subset rest node hrest)

/-- The nodes of a node are nodes of the fields. -/
theorem fieldNodes_subset : ∀ (fields : List (String × Expr)) (node : Expr),
    node ∈ fieldNodes fields → node.nodes ⊆ fieldNodes fields
  | [], _, hnode => by cases hnode
  | (_, expr) :: rest, node, hnode => by
    rw [fieldNodes] at hnode ⊢
    rcases List.mem_append.mp hnode with hfirst | hrest
    · exact List.subset_append_of_subset_left _ (nodes_subset expr node hfirst)
    · exact List.subset_append_of_subset_right _ (fieldNodes_subset rest node hrest)

end

/-! ### Closed parts -/

mutual

/-- The largest sub-expressions in which the element does not occur, from left to right. -/
def closedParts (expr : Expr) : List Expr :=
  if expr.isClosed then [expr]
  else match expr with
    | .member target _ => closedParts target
    | .binary _ left right => closedParts left ++ closedParts right
    | .call _ _ arguments => argumentClosedParts arguments
    | .construct fields => fieldClosedParts fields
    | _ => []

/-- The largest sub-expressions of arguments in which the element does not occur. -/
def argumentClosedParts : List Expr → List Expr
  | [] => []
  | expr :: rest => closedParts expr ++ argumentClosedParts rest

/-- The largest sub-expressions of fields in which the element does not occur. -/
def fieldClosedParts : List (String × Expr) → List Expr
  | [] => []
  | (_, expr) :: rest => closedParts expr ++ fieldClosedParts rest

end

theorem argumentClosedParts_eq_flatMap (arguments : List Expr) :
    argumentClosedParts arguments = arguments.flatMap closedParts := by
  induction arguments with
  | nil => rfl
  | cons first rest ih => rw [argumentClosedParts, ih, List.flatMap_cons]

theorem fieldClosedParts_eq_flatMap (fields : List (String × Expr)) :
    fieldClosedParts fields = fields.flatMap fun field => field.2.closedParts := by
  induction fields with
  | nil => rfl
  | cons first rest ih => rw [fieldClosedParts, ih, List.flatMap_cons]

theorem closedParts_of_isClosed {expr : Expr} (h : expr.isClosed = true) :
    expr.closedParts = [expr] := by
  rw [closedParts.eq_def, if_pos h]

theorem closedParts_binary {operator : Operator} {left right : Expr}
    (h : (Expr.binary operator left right).isClosed = false) :
    (Expr.binary operator left right).closedParts = left.closedParts ++ right.closedParts := by
  rw [closedParts.eq_def, if_neg (by rw [h]; decide)]

theorem closedParts_member {target : Expr} (h : target.isClosed = false) (name : String) :
    (Expr.member target name).closedParts = target.closedParts := by
  rw [closedParts.eq_def, if_neg (by simp [isClosed, h])]

theorem closedParts_call {name : String} {function : HostFunction} {arguments : List Expr}
    (h : areClosed arguments = false) :
    (Expr.call name function arguments).closedParts = arguments.flatMap closedParts := by
  rw [closedParts.eq_def, if_neg (by simp [isClosed, h]), ← argumentClosedParts_eq_flatMap]

theorem closedParts_construct {fields : List (String × Expr)} (h : fieldsAreClosed fields = false) :
    (Expr.construct fields).closedParts = fields.flatMap fun field => field.2.closedParts := by
  rw [closedParts.eq_def, if_neg (by simp [isClosed, h]), ← fieldClosedParts_eq_flatMap]

/-- Induction on an expression down to its largest closed parts. -/
@[elab_as_elim]
theorem open_induction {motive : Expr → Prop}
    (closed : ∀ expr : Expr, expr.isClosed = true → motive expr)
    (element : motive .element)
    (member : ∀ target name, target.isClosed = false → motive target →
      motive (.member target name))
    (binary : ∀ operator left right, (Expr.binary operator left right).isClosed = false →
      motive left → motive right → motive (.binary operator left right))
    (call : ∀ name function arguments, areClosed arguments = false →
      (∀ argument ∈ arguments, motive argument) → motive (.call name function arguments))
    (construct : ∀ fields, fieldsAreClosed fields = false →
      (∀ field ∈ fields, motive field.2) → motive (.construct fields))
    (expr : Expr) : motive expr := by
  refine @Expr.rec motive (fun arguments => ∀ argument ∈ arguments, motive argument)
    (fun fields => ∀ field ∈ fields, motive field.2) (fun field => motive field.2)
    element ?member ?constant ?binary ?call ?capture ?construct ?noArgument ?argument ?noField
    ?field ?pair expr
  case member =>
    intro target name ih
    by_cases hclosed : target.isClosed = true
    · exact closed _ hclosed
    · exact member target name (by simpa using hclosed) ih
  case constant => exact fun value => closed _ rfl
  case binary =>
    intro operator left right ihleft ihright
    by_cases hclosed : (Expr.binary operator left right).isClosed = true
    · exact closed _ hclosed
    · exact binary operator left right (by simpa using hclosed) ihleft ihright
  case call =>
    intro name function arguments ih
    by_cases hclosed : areClosed arguments = true
    · exact closed _ hclosed
    · exact call name function arguments (by simpa using hclosed) ih
  case capture => exact fun name value => closed _ rfl
  case construct =>
    intro fields ih
    by_cases hclosed : fieldsAreClosed fields = true
    · exact closed _ hclosed
    · exact construct fields (by simpa using hclosed) ih
  case noArgument => exact List.forall_mem_nil _
  case argument => exact fun first rest ihfirst ihrest => List.forall_mem_cons.mpr ⟨ihfirst, ihrest⟩
  case noField => exact List.forall_mem_nil _
  case field => exact fun first rest ihfirst ihrest => List.forall_mem_cons.mpr ⟨ihfirst, ihrest⟩
  case pair => exact fun name expr ih => ih

/-- A closed part is a node, and closed. -/
theorem mem_nodes_of_mem_closedParts (expr part : Expr) (h : part ∈ expr.closedParts) :
    part ∈ expr.nodes ∧ part.isClosed = true := by
  induction expr using open_induction with
  | closed expr hclosed =>
    rw [closedParts_of_isClosed hclosed] at h
    cases List.mem_singleton.mp h
    exact ⟨self_mem_nodes part, hclosed⟩
  | element => cases h
  | member target name hopen ih =>
    rw [closedParts_member hopen] at h
    obtain ⟨hnode, hclosed⟩ := ih h
    have htarget : target ≠ .element := by
      rintro rfl
      cases h
    exact ⟨nodes_member htarget name ▸ List.mem_cons_of_mem _ hnode, hclosed⟩
  | binary operator left right hopen ihleft ihright =>
    rw [closedParts_binary hopen] at h
    rw [nodes]
    rcases List.mem_append.mp h with hleft | hright
    · obtain ⟨hnode, hclosed⟩ := ihleft hleft
      exact ⟨List.mem_cons_of_mem _ (List.mem_append_left _ hnode), hclosed⟩
    · obtain ⟨hnode, hclosed⟩ := ihright hright
      exact ⟨List.mem_cons_of_mem _ (List.mem_append_right _ hnode), hclosed⟩
  | call name function arguments hopen ih =>
    rw [closedParts_call hopen] at h
    obtain ⟨argument, hargument, hpart⟩ := List.mem_flatMap.mp h
    obtain ⟨hnode, hclosed⟩ := ih argument hargument hpart
    rw [nodes, argumentNodes_eq_flatMap]
    exact ⟨List.mem_cons_of_mem _ (List.mem_flatMap.mpr ⟨argument, hargument, hnode⟩), hclosed⟩
  | construct fields hopen ih =>
    rw [closedParts_construct hopen] at h
    obtain ⟨field, hfield, hpart⟩ := List.mem_flatMap.mp h
    obtain ⟨hnode, hclosed⟩ := ih field hfield hpart
    rw [nodes, fieldNodes_eq_flatMap]
    exact ⟨List.mem_cons_of_mem _ (List.mem_flatMap.mpr ⟨field, hfield, hnode⟩), hclosed⟩

/-! ### The first unsupported node -/

/-- Why a node has no text in a predicate, if it has none. -/
def unsupported? : Expr → Option Failure
  | .element => some (.invalidShape .bareElement)
  | .member .element _ => none
  | .member _ name => some (.unsupportedMember name)
  | .constant (.record fields) => some (.unsupportedConstant (.record fields))
  | .constant _ => none
  | .binary operator _ _ =>
    if operator ∈ Operator.translatable then none else some (.unsupportedOperator operator.name)
  | .call name _ _ => some (.unsupportedOperator name)
  | .capture name _ => some (.unsupportedMember name)
  | .construct _ => some (.invalidShape .recordInPredicate)

/-- Why the first unsupported node of a predicate has no text. -/
def firstUnsupported? (predicate : Expr) : Option Failure :=
  predicate.nodes.findSome? unsupported?

/-- A predicate whose root is unsupported fails with it. -/
theorem firstUnsupported?_of_root {predicate : Expr} {failure : Failure}
    (h : predicate.unsupported? = some failure) : predicate.firstUnsupported? = some failure := by
  obtain ⟨rest, hnodes⟩ := nodes_eq_cons predicate
  rw [firstUnsupported?, hnodes, List.findSome?_cons, h]

theorem firstUnsupported?_binary {operator : Operator} (h : operator ∈ Operator.translatable)
    (left right : Expr) :
    (Expr.binary operator left right).firstUnsupported?
      = left.firstUnsupported?.or right.firstUnsupported? := by
  have hroot : (Expr.binary operator left right).unsupported? = none := if_pos h
  rw [firstUnsupported?, nodes, List.findSome?_cons, hroot, List.findSome?_append]
  rfl

end Expr

/-- The text of a predicate is there, or else the first unsupported node says why not. -/
theorem Expr.predicateText_cases (predicate : Expr) :
    (∃ text, predicate.firstUnsupported? = none ∧ predicate.predicateText = .ok text) ∨
      ∃ failure, predicate.firstUnsupported? = some failure ∧
        predicate.predicateText = .error failure := by
  induction predicate using Expr.predicateText.induct with
  | case1 => exact .inr ⟨_, rfl, rfl⟩
  | case2 name => exact .inl ⟨name, rfl, rfl⟩
  | case3 target name hne =>
    refine .inr ⟨.unsupportedMember name, ?_, ?_⟩
    · exact firstUnsupported?_of_root (by rw [unsupported?]; exact hne)
    · rw [predicateText]
      exact hne
  | case4 value =>
    cases value
    case record fields => exact .inr ⟨_, rfl, rfl⟩
    all_goals exact .inl ⟨_, rfl, rfl⟩
  | case5 operator left right ihleft ihright =>
    by_cases hoperator : operator ∈ Operator.translatable
    · obtain ⟨word, hword⟩ := Operator.keyword_of_translatable hoperator
      rw [firstUnsupported?_binary hoperator, predicateText, hword]
      -- the right side is asked for only if the left one has a text
      rcases ihleft with ⟨leftText, hnone, hleft⟩ | ⟨failure, hsome, hleft⟩
      · rw [hnone, Option.none_or, hleft]
        rcases ihright with ⟨rightText, hnone, hright⟩ | ⟨failure, hsome, hright⟩
        · rw [hnone, hright]
          exact .inl ⟨_, rfl, rfl⟩
        · rw [hsome, hright]
          exact .inr ⟨failure, rfl, rfl⟩
      · rw [hsome, hleft]
        exact .inr ⟨failure, rfl, rfl⟩
    · refine .inr ⟨.unsupportedOperator operator.name, ?_, ?_⟩
      · exact firstUnsupported?_of_root (if_neg hoperator)
      · rw [predicateText, Operator.keyword_of_not_translatable hoperator]
        rfl
  | case6 name => exact .inr ⟨_, firstUnsupported?_of_root rfl, rfl⟩
  | case7 name => exact .inr ⟨_, firstUnsupported?_of_root rfl, rfl⟩
  | case8 => exact .inr ⟨_, firstUnsupported?_of_root rfl, rfl⟩

/-- A predicate has a text if none of its nodes is unsupported. -/
theorem Expr.firstUnsupported?_eq_none_iff (predicate : Expr) :
    predicate.firstUnsupported? = none ↔ ∃ text, predicate.predicateText = .ok text := by
  rcases predicate.predicateText_cases with ⟨text, hnone, htext⟩ | ⟨failure, hsome, herror⟩
  · exact iff_of_true hnone ⟨text, htext⟩
  · rw [hsome, herror]
    exact iff_of_false (by simp) (by simp)

end ResourceFeed
