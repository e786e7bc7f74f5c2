import ResourceFeed.Proofs.Query.Folding
import ResourceFeed.Proofs.Query.InTurn
import ResourceFeed.Proofs.Query.Nodes

/-! # The normal form of a folded expression

    Folding runs the largest closed parts of an expression in turn, without
    an element, and then puts their values in their places (`fold_eq`).  All
    that is said here and elsewhere on what folding does comes from this.

    What folding leaves is in normal form: each closed node of it is a
    constant.  To fold such an expression again runs nothing and changes
    nothing.
-/

namespace ResourceFeed.Expr

/-! ### Changing the largest closed parts -/

mutual

/-- The expression with every largest closed part changed, and all else left as it is. -/
def mapClosed (change : Expr → Expr) (expr : Expr) : Expr :=
  if expr.isClosed then change expr
  else match expr with
    | .member target name => .member (mapClosed change target) name
    | .binary operator left right =>
      .binary operator (mapClosed change left) (mapClosed change right)
    | .call name function arguments => .call name function (mapClosedArguments change arguments)
    | .construct fields => .construct (mapClosedFields change fields)
    | leaf => leaf

/-- Arguments with their largest closed parts changed. -/
def mapClosedArguments (change : Expr → Expr) : List Expr → List Expr
  | [] => []
  | expr :: rest => mapClosed change expr :: mapClosedArguments change rest

/-- Fields with their largest closed parts changed. -/
def mapClosedFields (change : Expr → Expr) : List (String × Expr) → List (String × Expr)
  | [] => []
  | (name, expr) :: rest => (name, mapClosed change expr) :: mapClosedFields change rest

end

theorem mapClosedArguments_eq_map (change : Expr → Expr) (arguments : List Expr) :
    mapClosedArguments change arguments = arguments.map (mapClosed change) := by
  induction arguments with
  | nil => rfl
  | cons first rest ih => rw [mapClosedArguments, ih, List.map_cons]

theorem mapClosedFields_eq_map (change : Expr → Expr) (fields : List (String × Expr)) :
    mapClosedFields change fields = fields.map fun field => (field.1, mapClosed change field.2) := by
  induction fields with
  | nil => rfl
  | cons first rest ih => rw [mapClosedFields, ih, List.map_cons]

section mapClosed
variable (change : Expr → Expr)

theorem mapClosed_of_isClosed {expr : Expr} (hclosed : expr.isClosed = true) :
    expr.mapClosed change = change expr := by
  rw [mapClosed.eq_def, if_pos hclosed]

theorem mapClosed_member {target : Expr} (hopen : target.isClosed = false) (name : String) :
    mapClosed change (.member target name) = .member (mapClosed change target) name := by
  rw [mapClosed.eq_def, if_neg (by simp [isClosed, hopen])]

theorem mapClosed_binary {operator : Operator} {left right : Expr}
    (hopen : (Expr.binary operator left right).isClosed = false) :
    mapClosed change (.binary operator left right) =
      .binary operator (mapClosed change left) (mapClosed change right) := by
  rw [mapClosed.eq_def, if_neg (by simp [hopen])]

theorem mapClosed_call {name : String} {function : HostFunction} {arguments : List Expr}
    (hopen : areClosed arguments = false) :
    mapClosed change (.call name function arguments) =
      .call name function (arguments.map (mapClosed change)) := by
  rw [mapClosed.eq_def, if_neg (by simp [isClosed, hopen]), ← mapClosedArguments_eq_map]

theorem mapClosed_construct {fields : List (String × Expr)}
    (hopen : fieldsAreClosed fields = false) :
    mapClosed change (.construct fields) =
      .construct (fields.map fun field => (field.1, mapClosed change field.2)) := by
  rw [mapClosed.eq_def, if_neg (by simp [isClosed, hopen]), ← mapClosedFields_eq_map]

/-- Nothing but closed parts is changed: if each of them stays, so does the expression. -/
theorem mapClosed_eq_self (expr : Expr) (hstay : ∀ part ∈ expr.closedParts, change part = part) :
    expr.mapClosed change = expr := by
  induction expr using open_induction with
  | closed expr hclosed =>
    rw [closedParts_of_isClosed hclosed] at hstay
    rw [mapClosed_of_isClosed change hclosed, hstay expr List.mem_cons_self]
  | element => rfl
  | member target name hopen ih =>
    rw [closedParts_member hopen] at hstay
    rw [mapClosed_member change hopen, ih hstay]
  | binary operator left right hopen ihleft ihright =>
    rw [closedParts_binary hopen, List.forall_mem_append] at hstay
    rw [mapClosed_binary change hopen, ihleft hstay.1, ihright hstay.2]
  | call name function arguments hopen ih =>
    rw [closedParts_call hopen, List.forall_mem_flatMap] at hstay
    have hsame : ∀ argument ∈ arguments, argument.mapClosed change = argument :=
      fun argument hmem => ih argument hmem (hstay argument hmem)
    rw [mapClosed_call change hopen, List.map_congr_left hsame, List.map_id']
  | construct fields hopen ih =>
    rw [closedParts_construct hopen, List.forall_mem_flatMap] at hstay
    have hsame : ∀ field ∈ fields, (field.1, field.2.mapClosed change) = field :=
      fun field hmem => Prod.ext rfl (ih field hmem (hstay field hmem))
    rw [mapClosed_construct change hopen, List.map_congr_left hsame, List.map_id']

section keeping
variable {change} (hchange : ∀ part : Expr, part.isClosed = true → (change part).isClosed = true)
include hchange

/-- The element occurs as before if closed parts stay closed. -/
theorem isClosed_mapClosed (expr : Expr) : (expr.mapClosed change).isClosed = expr.isClosed := by
  induction expr using open_induction with
  | closed expr hclosed => rw [mapClosed_of_isClosed change hclosed, hchange expr hclosed, hclosed]
  | element => rfl
  | member target name hopen ih => rw [mapClosed_member change hopen, isClosed, ih, isClosed]
  | binary operator left right hopen ihleft ihright =>
    rw [mapClosed_binary change hopen, isClosed, ihleft, ihright, isClosed]
  | call name function arguments hopen ih =>
    have hsame : (arguments.map (mapClosed change)).map isClosed = arguments.map isClosed := by
      rw [List.map_map]
      exact List.map_congr_left ih
    rw [mapClosed_call change hopen, isClosed, isClosed, areClosed_eq_all, areClosed_eq_all, hsame]
  | construct fields hopen ih =>
    have hsame : (fields.map fun field => (field.1, field.2.mapClosed change)).map
        (fun field => field.2.isClosed) = fields.map fun field => field.2.isClosed := by
      rw [List.map_map]
      exact List.map_congr_left ih
    rw [mapClosed_construct change hopen, isClosed, isClosed, fieldsAreClosed_eq_all,
      fieldsAreClosed_eq_all, hsame]

/-- A closed node of the changed expression is in what one of the parts was changed to. -/
theorem mem_nodes_of_mem_nodes_mapClosed (expr node : Expr)
    (hnode : node ∈ (expr.mapClosed change).nodes) (hclosed : node.isClosed = true) :
    ∃ part ∈ expr.closedParts, node ∈ (change part).nodes := by
  -- the root of an open expression is open, so the node lies further down
  have hbelow : ∀ root : Expr, root.isClosed = false → ∀ below, node ∈ root :: below →
      node ∈ below := by
    rintro root hroot below (_ | ⟨_, hmem⟩)
    · rw [hroot] at hclosed
      cases hclosed
    · exact hmem
  induction expr using open_induction with
  | closed expr hexpr =>
    rw [mapClosed_of_isClosed change hexpr] at hnode
    exact ⟨expr, closedParts_of_isClosed hexpr ▸ List.mem_cons_self, hnode⟩
  | element => cases hbelow .element rfl [] hnode
  | member target name hopen ih =>
    rw [closedParts_member hopen]
    have hroot := (isClosed_mapClosed hchange (.member target name)).trans hopen
    rw [mapClosed_member change hopen] at hnode hroot
    exact ih (hbelow _ hroot _ (mem_of_mem_nodes_member hnode))
  | binary operator left right hopen ihleft ihright =>
    rw [closedParts_binary hopen]
    have hroot := (isClosed_mapClosed hchange (.binary operator left right)).trans hopen
    rw [mapClosed_binary change hopen] at hnode hroot
    rcases List.mem_append.mp (hbelow _ hroot _ hnode) with hleft | hright
    · obtain ⟨part, hpart, hmem⟩ := ihleft hleft
      exact ⟨part, List.mem_append_left _ hpart, hmem⟩
    · obtain ⟨part, hpart, hmem⟩ := ihright hright
      exact ⟨part, List.mem_append_right _ hpart, hmem⟩
  | call name function arguments hopen ih =>
    rw [closedParts_call hopen]
    have hroot := (isClosed_mapClosed hchange (.call name function arguments)).trans hopen
    rw [mapClosed_call change hopen] at hnode hroot
    have harguments := hbelow _ hroot _ hnode
    rw [argumentNodes_eq_flatMap, List.flatMap_map] at harguments
    obtain ⟨argument, hargument, hmem⟩ := List.mem_flatMap.mp harguments
    obtain ⟨part, hpart, hmem⟩ := ih argument hargument hmem
    exact ⟨part, List.mem_flatMap.mpr ⟨argument, hargument, hpart⟩, hmem⟩
  | construct fields hopen ih =>
    rw [closedParts_construct hopen]
    have hroot := (isClosed_mapClosed hchange (.construct fields)).trans hopen
    rw [mapClosed_construct change hopen] at hnode hroot
    have hfields := hbelow _ hroot _ hnode
    rw [fieldNodes_eq_flatMap, List.flatMap_map] at hfields
    obtain ⟨field, hfield, hmem⟩ := List.mem_flatMap.mp hfields
    obtain ⟨part, hpart, hmem⟩ := ih field hfield hmem
    exact ⟨part, List.mem_flatMap.mpr ⟨field, hfield, hpart⟩, hmem⟩

end keeping

end mapClosed

/-! ### Folding as a turn of closed parts -/

/-- Runs the largest closed parts in turn, without an element. -/
def runClosedParts (expr : Expr) : Run Unit :=
  Run.inTurn (expr.closedParts.map (run none))

/-- The constant for the value of a closed expression, if it has one. -/
def settled (expr : Expr) : Expr :=
  match expr.evaluate none with
  | .ok value => .constant value
  | .error _ => expr

theorem settled_of_ok {expr : Expr} {value : Value} (h : expr.evaluate none = .ok value) :
    expr.settled = .constant value := by
  rw [settled, h]

theorem isClosed_settled {expr : Expr} (hclosed : expr.isClosed = true) :
    expr.settled.isClosed = true := by
  unfold settled
  split
  · rfl
  · exact hclosed

theorem runClosedParts_of_isClosed {expr : Expr} (hclosed : expr.isClosed = true) :
    expr.runClosedParts = run none expr >>= fun _ => pure () := by
  rw [runClosedParts, closedParts_of_isClosed hclosed, List.map_singleton, Run.inTurn_singleton]

theorem runClosedParts_member {target : Expr} (hopen : target.isClosed = false) (name : String) :
    (Expr.member target name).runClosedParts = target.runClosedParts := by
  rw [runClosedParts, closedParts_member hopen, runClosedParts]

theorem runClosedParts_binary {operator : Operator} {left right : Expr}
    (hopen : (Expr.binary operator left right).isClosed = false) :
    (Expr.binary operator left right).runClosedParts =
      left.runClosedParts >>= fun _ => right.runClosedParts := by
  rw [runClosedParts, closedParts_binary hopen, List.map_append, Run.inTurn_append,
    runClosedParts, runClosedParts]

theorem foldArguments_eq {arguments : List Expr}
    (ih : ∀ argument ∈ arguments,
      argument.fold = argument.runClosedParts >>= fun _ => pure (argument.mapClosed settled)) :
    foldArguments arguments =
      Run.inTurn ((arguments.flatMap closedParts).map (run none)) >>= fun _ =>
        pure (arguments.map (mapClosed settled)) := by
  induction arguments with
  | nil => rfl
  | cons first rest ihrest =>
    obtain ⟨hfirst, hrest⟩ := List.forall_mem_cons.mp ih
    rw [foldArguments, hfirst, ihrest hrest, List.flatMap_cons, List.map_append, Run.inTurn_append,
      runClosedParts]
    simp only [bind_assoc, pure_bind, List.map_cons]

theorem foldFields_eq {fields : List (String × Expr)}
    (ih : ∀ field ∈ fields,
      field.2.fold = field.2.runClosedParts >>= fun _ => pure (field.2.mapClosed settled)) :
    foldFields fields =
      Run.inTurn ((fields.flatMap fun field => field.2.closedParts).map (run none)) >>= fun _ =>
        pure (fields.map fun field => (field.1, field.2.mapClosed settled)) := by
  induction fields with
  | nil => rfl
  | cons first rest ihrest =>
    obtain ⟨hfirst, hrest⟩ := List.forall_mem_cons.mp ih
    rw [foldFields, hfirst, ihrest hrest, List.flatMap_cons, List.map_append, Run.inTurn_append,
      runClosedParts]
    simp only [bind_assoc, pure_bind, List.map_cons]

/-- Folding runs the largest closed parts in turn and then puts their values in their places. -/
theorem fold_eq (expr : Expr) :
    expr.fold = expr.runClosedParts >>= fun _ => pure (expr.mapClosed settled) := by
  induction expr using open_induction with
  | closed expr hclosed =>
    rw [fold_of_isClosed hclosed, runClosedParts_of_isClosed hclosed,
      mapClosed_of_isClosed settled hclosed]
    -- with a value the expression becomes that constant, and without one the folding ends
    cases hrun : (run none expr).outcome with
    | ok value =>
      simp only [bind_assoc, pure_bind, settled_of_ok hrun]
      rw [Run.bind_of_ok hrun, Run.bind_of_ok hrun]
    | error failure =>
      simp only [bind_assoc]
      rw [Run.bind_of_error hrun, Run.bind_of_error hrun]
  | element => rfl
  | member target name hopen ih =>
    rw [fold_member hopen, runClosedParts_member hopen, mapClosed_member settled hopen]
    simp only [ih, bind_assoc, pure_bind]
  | binary operator left right hopen ihleft ihright =>
    rw [fold_binary hopen, runClosedParts_binary hopen, mapClosed_binary settled hopen]
    simp only [ihleft, ihright, bind_assoc, pure_bind]
  | call name function arguments hopen ih =>
    rw [fold_call hopen, runClosedParts, closedParts_call hopen, mapClosed_call settled hopen]
    simp only [foldArguments_eq ih, bind_assoc, pure_bind]
  | construct fields hopen ih =>
    rw [fold_construct hopen, runClosedParts, closedParts_construct hopen,
      mapClosed_construct settled hopen]
    simp only [foldFields_eq ih, bind_assoc, pure_bind]

/-- Folding succeeds if every largest closed part has a value, and these are put in. -/
theorem outcome_fold_eq_ok_iff {expr folded : Expr} :
    expr.fold.outcome = .ok folded ↔
      (∀ part ∈ expr.closedParts, ∃ value, part.evaluate none = .ok value) ∧
        folded = expr.mapClosed settled := by
  rw [fold_eq, Run.outcome_bind_eq_ok, runClosedParts]
  constructor
  · rintro ⟨_, hparts, hfolded⟩
    cases hfolded
    exact ⟨fun part hpart => Run.inTurn_eq_ok_iff.mp hparts _ (List.mem_map_of_mem hpart), rfl⟩
  · rintro ⟨hparts, rfl⟩
    exact ⟨(), Run.inTurn_eq_ok_iff.mpr (List.forall_mem_map.mpr hparts), rfl⟩

/-! ### Normal form -/

/-- Every closed node is a constant: nothing is left to be folded.  The only
    sub-expression that is no node, the element in a member of it, is not closed. -/
def IsNormal (expr : Expr) : Prop :=
  ∀ node ∈ expr.nodes, node.isClosed = true → ∃ value, node = .constant value

/-- With their values in the places of the closed parts, an expression is in normal form. -/
theorem isNormal_mapClosed_settled {expr : Expr}
    (hparts : ∀ part ∈ expr.closedParts, ∃ value, part.evaluate none = .ok value) :
    (expr.mapClosed settled).IsNormal := by
  intro node hnode hclosed
  obtain ⟨part, hpart, hmem⟩ :=
    mem_nodes_of_mem_nodes_mapClosed (fun _ => isClosed_settled) expr node hnode hclosed
  obtain ⟨value, hvalue⟩ := hparts part hpart
  -- the part became a constant, which is its own only node
  rw [settled_of_ok hvalue] at hmem
  exact ⟨value, List.mem_singleton.mp hmem⟩

/-- To fold an expression in normal form runs nothing and changes nothing. -/
theorem IsNormal.fold_eq_pure {expr : Expr} (h : expr.IsNormal) : expr.fold = pure expr := by
  -- the closed parts are closed nodes, so they are constants already
  have hconstant : ∀ part ∈ expr.closedParts, ∃ value, part = .constant value := by
    intro part hpart
    obtain ⟨hnode, hclosed⟩ := mem_nodes_of_mem_closedParts expr part hpart
    exact h part hnode hclosed
  have hnothing : expr.runClosedParts = pure () := by
    refine Run.inTurn_of_pure (List.forall_mem_map.mpr fun part hpart => ?_)
    obtain ⟨value, rfl⟩ := hconstant part hpart
    exact ⟨value, rfl⟩
  have hsame : expr.mapClosed settled = expr := by
    refine mapClosed_eq_self settled expr fun part hpart => ?_
    obtain ⟨value, rfl⟩ := hconstant part hpart
    rfl
  rw [fold_eq, hnothing, hsame, pure_bind]

/-! ### Main statement -/

/-- **Folding reaches a normal form.**  An expression in which the element
    does not occur is left alone.  Any other that folds is changed only where
    its largest closed parts are: each has a value, and this value is in its
    place.  The element still occurs in the result, every closed node of the
    result is a constant, and to fold it again runs nothing and changes
    nothing. -/
theorem simplify_reaches_normal_form (expr : Expr) :
    (expr.isClosed = true → expr.simplify = pure expr) ∧
      (expr.isClosed = false → ∀ simplified, expr.simplify.outcome = .ok simplified →
        (∀ part ∈ expr.closedParts, ∃ value, part.evaluate none = .ok value) ∧
        simplified = expr.mapClosed settled ∧
        simplified.isClosed = false ∧
        simplified.IsNormal ∧
        simplified.simplify = pure simplified) := by
  constructor
  · intro hclosed
    rw [simplify, if_pos hclosed]
  · intro hopen simplified hsimplified
    rw [simplify, if_neg (by simp [hopen])] at hsimplified
    obtain ⟨hparts, rfl⟩ := outcome_fold_eq_ok_iff.mp hsimplified
    have hstill : (expr.mapClosed settled).isClosed = false :=
      (isClosed_mapClosed (fun _ => isClosed_settled) expr).trans hopen
    have hnormal := isNormal_mapClosed_settled hparts
    refine ⟨hparts, rfl, hstill, hnormal, ?_⟩
    rw [simplify, if_neg (by simp [hstill]), hnormal.fold_eq_pure]

/-- The statement for a call whose second argument is folded, and for that argument alone. -/
theorem simplify_reaches_normal_form_of_argument :
    ((Expr.call "within" (fun _ => .ok (.bool true))
        [.field "Age", .binary .add (.capture "limit" (.int 30)) (.constant (.int 1))]).simplify.outcome
      = .ok (.call "within" (fun _ => .ok (.bool true)) [.field "Age", .constant (.int 31)]) ∧
    (Expr.call "within" (fun _ => .ok (.bool true)) [.field "Age", .constant (.int 31)]).IsNormal ∧
    (Expr.call "within" (fun _ => .ok (.bool true)) [.field "Age", .constant (.int 31)]).simplify
      = pure (.call "within" (fun _ => .ok (.bool true)) [.field "Age", .constant (.int 31)])) ∧
    (Expr.binary .add (.capture "limit" (.int 30)) (.constant (.int 1))).simplify
      = pure (.binary .add (.capture "limit" (.int 30)) (.constant (.int 1))) := by
  obtain ⟨_, _, _, hnormal, hagain⟩ := (simplify_reaches_normal_form
    (.call "within" (fun _ => .ok (.bool true))
      [.field "Age", .binary .add (.capture "limit" (.int 30)) (.constant (.int 1))])).2 rfl _ rfl
  exact ⟨⟨rfl, hnormal, hagain⟩, (simplify_reaches_normal_form _).1 rfl⟩

end ResourceFeed.Expr
