import ResourceFeed.Proofs.Query.HostEvents

/-! # Where failures of evaluation come from

    An operator on values that it is not made for fails, and so does a member
    that is not there; these failures say that an evaluation failed.  A
    function of the host program fails as it likes.

    So a failure of an evaluation is of the first sort, or a function that is
    called in the expression has refused its arguments with it.  Folding an
    expression evaluates parts of it and nothing else, and folding a chain
    folds its predicates and selectors: they fail in the same two ways.
-/

namespace ResourceFeed

/-! ### Values -/

namespace Failure

/-- Whether the failure says that an evaluation failed. -/
def isEvaluation : Failure → Bool
  | .evaluation _ => true
  | _ => false

end Failure

namespace Operator

variable {operator : Operator} {left right value : Value} {failure : Failure}

theorem isEvaluation_of_truth (h : operator.truth value = .error failure) :
    failure.isEvaluation := by
  cases value with
  | bool value => cases h
  | _ => cases h; rfl

theorem isEvaluation_of_arithmetic (h : operator.arithmetic left right = .error failure) :
    failure.isEvaluation := by
  unfold arithmetic at h
  split at h
  · split at h <;> cases h
    rfl
  · split at h
    · cases h
    · split at h <;> cases h
      rfl

/-- An operator fails only because an evaluation failed. -/
theorem isEvaluation_of_apply (h : operator.apply left right = .error failure) :
    failure.isEvaluation := by
  -- the logical operators ask for both truth values
  have hlogical : ∀ decide : Bool → Bool → Value,
      (operator.truth left >>= fun a => operator.truth right >>= fun b => .ok (decide a b)) =
        .error failure → failure.isEvaluation := by
    intro decide h
    rcases bind_eq_error.mp h with hleft | ⟨a, -, h⟩
    · exact isEvaluation_of_truth hleft
    · rcases bind_eq_error.mp h with hright | ⟨b, -, h⟩
      · exact isEvaluation_of_truth hright
      · cases h
  cases operator with
  | and => exact hlogical (fun a b => .bool (a && b)) h
  | andAlso => exact hlogical (fun a b => .bool (a && b)) h
  | or => exact hlogical (fun a b => .bool (a || b)) h
  | eq | ne => cases h
  | lt | le | gt | ge =>
    rw [apply] at h
    split at h <;> cases h
    rfl
  | add | sub | mul | div => exact isEvaluation_of_arithmetic h

end Operator

theorem Value.isEvaluation_of_member {value : Value} {name : String} {failure : Failure}
    (h : value.member name = .error failure) : failure.isEvaluation := by
  cases value with
  | record fields =>
    rw [member] at h
    split at h <;> cases h
    rfl
  | _ => cases h; rfl

/-! ### Operands in turn -/

namespace Operator

variable {operator : Operator} {failure : Failure}

/-- An operand that is asked for its truth value fails, or has none, or what comes next fails. -/
theorem cases_of_truth_error {operand : Run Value} {next : Bool → Run Value}
    (h : (operand >>= fun value => Run.ofExcept (operator.truth value) >>= next).outcome =
      .error failure) :
    operand.outcome = .error failure ∨ failure.isEvaluation ∨
      ∃ truth, (next truth).outcome = .error failure := by
  rcases Run.outcome_bind_eq_error.mp h with hoperand | ⟨value, -, h⟩
  · exact .inl hoperand
  rcases Run.outcome_bind_eq_error.mp h with htruth | ⟨truth, -, h⟩
  · exact .inr (.inl (isEvaluation_of_truth htruth))
  · exact .inr (.inr ⟨truth, h⟩)

/-- Two operands in turn fail as one of them, or because the operator is not made for their
    values. -/
theorem cases_of_operands_error {element? : Option Value} {first second : Expr}
    (h : ((Expr.binary operator first second).run element?).outcome = .error failure) :
    (first.run element?).outcome = .error failure ∨
      (second.run element?).outcome = .error failure ∨ failure.isEvaluation := by
  rw [Expr.run] at h
  cases hdeciding : operator.deciding? with
  | none =>
    rw [hdeciding] at h
    rcases Run.outcome_bind_eq_error.mp h with hfirst | ⟨a, -, h⟩
    · exact .inl hfirst
    rcases Run.outcome_bind_eq_error.mp h with hsecond | ⟨b, -, h⟩
    · exact .inr (.inl hsecond)
    · exact .inr (.inr (isEvaluation_of_apply h))
  | some decisive =>
    rw [hdeciding] at h
    rcases cases_of_truth_error h with hfirst | hevaluation | ⟨truth, h⟩
    · exact .inl hfirst
    · exact .inr (.inr hevaluation)
    -- the second one is asked for only if the first one does not decide
    split at h
    · cases h
    rcases cases_of_truth_error h with hsecond | hevaluation | ⟨truth, h⟩
    · exact .inr (.inl hsecond)
    · exact .inr (.inr hevaluation)
    · cases h

end Operator

/-! ### Expressions -/

namespace Expr

/-- A function that is called at one of the nodes refuses some arguments with a failure. -/
def RefusedAt (nodes : List Expr) (failure : Failure) : Prop :=
  ∃ name function arguments values,
    .call name function arguments ∈ nodes ∧ function values = .error failure

/-- The failures that can come out of an expression with these nodes. -/
def FailsAt (nodes : List Expr) (failure : Failure) : Prop :=
  failure.isEvaluation ∨ RefusedAt nodes failure

variable {nodes more : List Expr} {failure : Failure}

theorem FailsAt.mono (h : FailsAt nodes failure) (hsubset : nodes ⊆ more) :
    FailsAt more failure := by
  rcases h with hevaluation | ⟨name, function, arguments, values, hcall, hrefused⟩
  · exact .inl hevaluation
  · exact .inr ⟨name, function, arguments, values, hsubset hcall, hrefused⟩

mutual

/-- A run of an expression fails because an evaluation failed, or as a function that is called in
    the expression. -/
theorem failsAt_of_run (element? : Option Value) : ∀ expr : Expr,
    (run element? expr).outcome = .error failure → FailsAt expr.nodes failure
  | .element, h => by
    cases element? with
    | some value => cases h
    | none => cases h; exact .inl rfl
  | .member target name, h => by
    rcases Run.outcome_bind_eq_error.mp h with htarget | ⟨value, -, h⟩
    · by_cases helement : target = .element
      · -- the element is no node of its own, but it fails only for want of an element
        subst helement
        cases element? with
        | some value => cases htarget
        | none => cases htarget; exact .inl rfl
      · rw [nodes_member helement]
        exact (failsAt_of_run element? target htarget).mono (List.subset_cons_self _ _)
    · exact .inl (Value.isEvaluation_of_member h)
  | .constant _, h => nomatch h
  | .binary operator left right, h => by
    rw [nodes]
    rcases Operator.cases_of_operands_error h with hleft | hright | hevaluation
    · exact (failsAt_of_run element? left hleft).mono
        (List.subset_cons_of_subset _ (List.subset_append_left _ _))
    · exact (failsAt_of_run element? right hright).mono
        (List.subset_cons_of_subset _ (List.subset_append_right _ _))
    · exact .inl hevaluation
  | .call name function arguments, h => by
    rw [nodes]
    rcases Run.outcome_bind_eq_error.mp h with harguments | ⟨values, -, h⟩
    · exact (failsAt_of_runArguments element? arguments harguments).mono
        (List.subset_cons_self _ _)
    rcases Run.outcome_bind_eq_error.mp h with hemit | ⟨_, -, h⟩
    · cases hemit
    · exact .inr ⟨name, function, arguments, values, List.mem_cons_self, h⟩
  | .capture _ _, h => by cases h
  | .construct fields, h => by
    rw [nodes]
    rcases Run.outcome_bind_eq_error.mp h with hfields | ⟨values, -, h⟩
    · exact (failsAt_of_runFields element? fields hfields).mono (List.subset_cons_self _ _)
    · cases h

/-- Arguments fail as one of them. -/
theorem failsAt_of_runArguments (element? : Option Value) : ∀ arguments : List Expr,
    (runArguments element? arguments).outcome = .error failure →
      FailsAt (argumentNodes arguments) failure
  | [], h => nomatch h
  | expr :: rest, h => by
    rw [argumentNodes]
    rcases Run.outcome_bind_eq_error.mp h with hexpr | ⟨value, -, h⟩
    · exact (failsAt_of_run element? expr hexpr).mono (List.subset_append_left _ _)
    rcases Run.outcome_bind_eq_error.mp h with hrest | ⟨values, -, h⟩
    · exact (failsAt_of_runArguments element? rest hrest).mono (List.subset_append_right _ _)
    · cases h

/-- Fields fail as one of them. -/
theorem failsAt_of_runFields (element? : Option Value) : ∀ fields : List (String × Expr),
    (runFields element? fields).outcome = .error failure → FailsAt (fieldNodes fields) failure
  | [], h => nomatch h
  | (_, expr) :: rest, h => by
    rw [fieldNodes]
    rcases Run.outcome_bind_eq_error.mp h with hexpr | ⟨value, -, h⟩
    · exact (failsAt_of_run element? expr hexpr).mono (List.subset_append_left _ _)
    rcases Run.outcome_bind_eq_error.mp h with hrest | ⟨values, -, h⟩
    · exact (failsAt_of_runFields element? rest hrest).mono (List.subset_append_right _ _)
    · cases h

end

/-- Folding an expression runs parts of it, so it fails in the same ways. -/
theorem failsAt_of_simplify {expr : Expr} (h : expr.simplify.outcome = .error failure) :
    FailsAt expr.nodes failure := by
  rw [simplify_eq] at h
  rcases Run.outcome_bind_eq_error.mp h with hturn | ⟨_, -, h⟩
  · obtain ⟨_, hmem, hrun⟩ := Run.exists_error_of_inTurn hturn
    obtain ⟨part, hpart, rfl⟩ := List.mem_map.mp hmem
    have hclosed : part ∈ expr.closedParts := by
      unfold foldedParts at hpart
      split at hpart
      · cases hpart
      · exact hpart
    have hnode := (mem_nodes_of_mem_closedParts expr part hclosed).1
    exact (failsAt_of_run none part hrun).mono (nodes_subset expr part hnode)
  · cases h

end Expr

/-- Folding a chain fails as folding one of its predicates and selectors. -/
theorem Chain.exists_failsAt_of_fold {chain : Chain} {failure : Failure}
    (h : chain.fold.outcome = .error failure) :
    ∃ expr ∈ chain.expressions, Expr.FailsAt expr.nodes failure := by
  rw [fold_eq] at h
  rcases Run.outcome_bind_eq_error.mp h with hturn | ⟨_, -, h⟩
  · obtain ⟨_, hmem, hrun⟩ := Run.exists_error_of_inTurn hturn
    obtain ⟨expr, hexpr, rfl⟩ := List.mem_map.mp hmem
    exact ⟨expr, hexpr, Expr.failsAt_of_simplify hrun⟩
  · cases h

end ResourceFeed
