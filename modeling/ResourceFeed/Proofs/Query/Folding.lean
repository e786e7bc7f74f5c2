import ResourceFeed.Query.Fold

/-! # Folding keeps the meaning

    Folding replaces closed parts of an expression by their values before the
    element is known.  Two facts make this harmless:

    - a closed expression runs the same for every element and for none, so
      the value found early is the value found late;
    - evaluation asks for the parts of an expression in an order that does not
      depend on whether a part is a constant, so the first failure and the
      short cuts of `andAlso` and `or` stay where they were.

    The main statement is `simplify_preserves_evaluation`: if simplifying
    succeeds, the result and the expression have the same outcome for every
    element and for none.
-/

namespace ResourceFeed.Expr

/-! ### Closed expressions -/

mutual

/-- A closed expression runs the same for any two elements. -/
theorem run_of_isClosed (first second : Option Value) :
    ∀ expr : Expr, expr.isClosed = true → run first expr = run second expr
  | .element, h => by simp [isClosed] at h
  | .member target name, h => by
    simp only [isClosed] at h
    simp only [run]
    rw [run_of_isClosed first second target h]
  | .constant _, _ => by simp only [run]
  | .binary operator left right, h => by
    simp only [isClosed, Bool.and_eq_true] at h
    obtain ⟨hleft, hright⟩ := h
    simp only [run]
    rw [run_of_isClosed first second left hleft, run_of_isClosed first second right hright]
  | .call name function arguments, h => by
    simp only [isClosed] at h
    simp only [run]
    rw [runArguments_of_areClosed first second arguments h]
  | .capture _ _, _ => by simp only [run]
  | .construct fields, h => by
    simp only [isClosed] at h
    simp only [run]
    rw [runFields_of_fieldsAreClosed first second fields h]

/-- Closed arguments run the same for any two elements. -/
theorem runArguments_of_areClosed (first second : Option Value) :
    ∀ arguments : List Expr, areClosed arguments = true →
      runArguments first arguments = runArguments second arguments
  | [], _ => by simp only [runArguments]
  | expr :: rest, h => by
    simp only [areClosed, Bool.and_eq_true] at h
    obtain ⟨hexpr, hrest⟩ := h
    simp only [runArguments]
    rw [run_of_isClosed first second expr hexpr, runArguments_of_areClosed first second rest hrest]

/-- Closed fields run the same for any two elements. -/
theorem runFields_of_fieldsAreClosed (first second : Option Value) :
    ∀ fields : List (String × Expr), fieldsAreClosed fields = true →
      runFields first fields = runFields second fields
  | [], _ => by simp only [runFields]
  | (_, expr) :: rest, h => by
    simp only [fieldsAreClosed, Bool.and_eq_true] at h
    obtain ⟨hexpr, hrest⟩ := h
    simp only [runFields]
    rw [run_of_isClosed first second expr hexpr,
      runFields_of_fieldsAreClosed first second rest hrest]

end

/-! ### Folding one node -/

/-- A closed expression is folded into its value. -/
theorem fold_of_isClosed {expr : Expr} (hclosed : expr.isClosed = true) :
    expr.fold = run none expr >>= fun value => pure (.constant value) := by
  rw [fold.eq_def, if_pos hclosed]

theorem fold_member {target : Expr} (hopen : target.isClosed = false) (name : String) :
    (Expr.member target name).fold = target.fold >>= fun target => pure (.member target name) := by
  rw [fold.eq_def, if_neg (by simp [isClosed, hopen])]

theorem fold_binary {operator : Operator} {left right : Expr}
    (hopen : (Expr.binary operator left right).isClosed = false) :
    (Expr.binary operator left right).fold =
      left.fold >>= fun left => right.fold >>= fun right => pure (.binary operator left right) := by
  rw [fold.eq_def, if_neg (by simp [hopen])]

theorem fold_call {name : String} {function : HostFunction} {arguments : List Expr}
    (hopen : areClosed arguments = false) :
    (Expr.call name function arguments).fold =
      foldArguments arguments >>= fun arguments => pure (.call name function arguments) := by
  rw [fold.eq_def, if_neg (by simp [isClosed, hopen])]

theorem fold_construct {fields : List (String × Expr)} (hopen : fieldsAreClosed fields = false) :
    (Expr.construct fields).fold = foldFields fields >>= fun fields => pure (.construct fields) := by
  rw [fold.eq_def, if_neg (by simp [isClosed, hopen])]

/-- The value that a closed expression is folded into is its value for every element. -/
theorem outcome_run_fold_of_isClosed {expr folded : Expr} (hclosed : expr.isClosed = true)
    (hfold : expr.fold.outcome = .ok folded) (element? : Option Value) :
    (run element? folded).outcome = (run element? expr).outcome := by
  rw [fold_of_isClosed hclosed] at hfold
  obtain ⟨value, hvalue, hfolded⟩ := Run.outcome_bind_eq_ok.mp hfold
  cases hfolded
  rw [run_of_isClosed element? none expr hclosed, hvalue]
  simp only [run, Run.pure_outcome]

/-! ### Folding a tree

    The three statements follow the recursion of `fold`.  Only outcomes are
    compared: the events of folded parts happened while folding. -/

mutual

/-- Folding keeps the outcome of an expression for every element. -/
theorem outcome_run_fold (element? : Option Value) :
    ∀ expr folded : Expr, expr.fold.outcome = .ok folded →
      (run element? folded).outcome = (run element? expr).outcome
  | expr, folded, h => by
    by_cases hclosed : expr.isClosed = true
    · exact outcome_run_fold_of_isClosed hclosed h element?
    rw [fold.eq_def, if_neg hclosed] at h
    match expr with
    | .element =>
      cases h
      rfl
    | .member target name =>
      obtain ⟨target', htarget, hfolded⟩ := Run.outcome_bind_eq_ok.mp h
      cases hfolded
      have ih := outcome_run_fold element? target target' htarget
      simp only [run, Run.outcome_bind, ih]
    | .constant _ => simp [isClosed] at hclosed
    | .binary operator left right =>
      obtain ⟨left', hleft, h⟩ := Run.outcome_bind_eq_ok.mp h
      obtain ⟨right', hright, hfolded⟩ := Run.outcome_bind_eq_ok.mp h
      cases hfolded
      have ihleft := outcome_run_fold element? left left' hleft
      have ihright := outcome_run_fold element? right right' hright
      simp only [run]
      -- the right side is asked for only if the left one does not decide
      cases operator.deciding? with
      | none => simp only [Run.outcome_bind, ihleft, ihright]
      | some decisive => simp only [Run.outcome_bind, apply_ite Run.outcome, ihleft, ihright]
    | .call name function arguments =>
      obtain ⟨arguments', harguments, hfolded⟩ := Run.outcome_bind_eq_ok.mp h
      cases hfolded
      have ih := outcome_runArguments_fold element? arguments arguments' harguments
      simp only [run, Run.outcome_bind, ih]
    | .capture _ _ => simp [isClosed] at hclosed
    | .construct fields =>
      obtain ⟨fields', hfields, hfolded⟩ := Run.outcome_bind_eq_ok.mp h
      cases hfolded
      have ih := outcome_runFields_fold element? fields fields' hfields
      simp only [run, Run.outcome_bind, ih]

/-- Folding keeps the outcomes of arguments. -/
theorem outcome_runArguments_fold (element? : Option Value) :
    ∀ arguments folded : List Expr, (foldArguments arguments).outcome = .ok folded →
      (runArguments element? folded).outcome = (runArguments element? arguments).outcome
  | [], folded, h => by
    cases h
    rfl
  | expr :: rest, folded, h => by
    simp only [foldArguments] at h
    obtain ⟨expr', hexpr, h⟩ := Run.outcome_bind_eq_ok.mp h
    obtain ⟨rest', hrest, hfolded⟩ := Run.outcome_bind_eq_ok.mp h
    cases hfolded
    have ihexpr := outcome_run_fold element? expr expr' hexpr
    have ihrest := outcome_runArguments_fold element? rest rest' hrest
    simp only [runArguments, Run.outcome_bind, ihexpr, ihrest]

/-- Folding keeps the outcomes of fields. -/
theorem outcome_runFields_fold (element? : Option Value) :
    ∀ fields folded : List (String × Expr), (foldFields fields).outcome = .ok folded →
      (runFields element? folded).outcome = (runFields element? fields).outcome
  | [], folded, h => by
    cases h
    rfl
  | (name, expr) :: rest, folded, h => by
    simp only [foldFields] at h
    obtain ⟨expr', hexpr, h⟩ := Run.outcome_bind_eq_ok.mp h
    obtain ⟨rest', hrest, hfolded⟩ := Run.outcome_bind_eq_ok.mp h
    cases hfolded
    have ihexpr := outcome_run_fold element? expr expr' hexpr
    have ihrest := outcome_runFields_fold element? rest rest' hrest
    simp only [runFields, Run.outcome_bind, ihexpr, ihrest]

end

/-! ### Main statement -/

/-- **Simplifying preserves evaluation**: what an expression is simplified to
    has the same value as the expression, or fails with the same failure, for
    every element and for none. -/
theorem simplify_preserves_evaluation {expr simplified : Expr}
    (h : expr.simplify.outcome = .ok simplified) (element? : Option Value) :
    simplified.evaluate element? = expr.evaluate element? := by
  unfold simplify at h
  split at h
  · -- closed as a whole: left alone
    cases h
    rfl
  · exact outcome_run_fold element? expr simplified h

/-- The statement for a comparison with a captured limit, in front of a closed
    right side that is folded although the left one decides. -/
theorem simplify_preserves_evaluation_of_captured_limit :
    (Expr.binary .andAlso
        (.binary .lt (.field "Age")
          (.binary .add (.capture "limit" (.int 30)) (.constant (.int 1))))
        (.member (.construct [("Open", .constant (.bool true))]) "Open")).simplify.outcome
      = .ok (.binary .andAlso (.binary .lt (.field "Age") (.constant (.int 31)))
          (.constant (.bool true))) ∧
    (Expr.binary .andAlso (.binary .lt (.field "Age") (.constant (.int 31)))
        (.constant (.bool true))).evaluate (some (.record [("Age", .int 42)]))
      = (Expr.binary .andAlso
          (.binary .lt (.field "Age")
            (.binary .add (.capture "limit" (.int 30)) (.constant (.int 1))))
          (.member (.construct [("Open", .constant (.bool true))]) "Open")).evaluate
        (some (.record [("Age", .int 42)])) :=
  ⟨rfl, simplify_preserves_evaluation rfl (some (.record [("Age", .int 42)]))⟩

end ResourceFeed.Expr
