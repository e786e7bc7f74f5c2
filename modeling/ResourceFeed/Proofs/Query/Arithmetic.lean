import ResourceFeed.Query.Evaluate

/-! # Calculations with integers

    A *calculation* is an expression of integers of 64 bits and the four
    operations on them.  What it comes to is said in two steps that do not look
    at words of 64 bits:

    - its value is that of the same operations on integers of any size, with
      quotients rounded toward zero;
    - its *stages* are its parts in the order in which they are evaluated,
      operands first and the left one before the right one.  A stage *holds*
      if it does not divide by zero and its value fits 64 bits.

    If all stages hold, the calculation is evaluated to its value.  Otherwise
    the first stage that does not hold is named by the failure, with its
    operands.  The main statement is `evaluate_calculation`.
-/

namespace ResourceFeed

/-! ### Operations -/

/-- An operation on two integers. -/
inductive Arithmetic where
  | add
  | sub
  | mul
  | div

namespace Arithmetic

/-- The operator for the operation. -/
def operator : Arithmetic → Operator
  | .add => .add
  | .sub => .sub
  | .mul => .mul
  | .div => .div

/-- The result on integers of any size; a quotient is rounded toward zero. -/
def result : Arithmetic → Int → Int → Int
  | .add, a, b => a + b
  | .sub, a, b => a - b
  | .mul, a, b => a * b
  | .div, a, b => a.tdiv b

/-- Whether there is a result, and one of 64 bits. -/
def Holds (operation : Arithmetic) (a b : Int) : Prop :=
  (operation = .div → b ≠ 0) ∧ FitsInt64 (operation.result a b)

/-- Nothing but a division by zero is without a result. -/
theorem exactResult?_of_divisor {operation : Arithmetic} {a b : Int}
    (h : operation = .div → b ≠ 0) :
    operation.operator.exactResult? a b = some (operation.result a b) := by
  cases operation with
  | div => exact if_neg (h rfl)
  | add | sub | mul => rfl

/-- An operation that holds has its exact result. -/
theorem onIntegers?_of_holds {operation : Arithmetic} {a b : Int64}
    (h : operation.Holds a.toInt b.toInt) :
    ∃ word, operation.operator.onIntegers? a b = some word ∧
      word.toInt = operation.result a.toInt b.toInt := by
  obtain ⟨hdivisor, hfits⟩ := h
  refine ⟨Int64.ofInt (operation.result a.toInt b.toInt), ?_, ?_⟩
  · rw [Operator.onIntegers?, exactResult?_of_divisor hdivisor]
    exact if_pos hfits
  · exact Int64.toInt_ofInt_of_le hfits.1 hfits.2

/-- An operation that does not hold has no result. -/
theorem onIntegers?_of_not_holds {operation : Arithmetic} {a b : Int64}
    (h : ¬ operation.Holds a.toInt b.toInt) : operation.operator.onIntegers? a b = none := by
  rw [Operator.onIntegers?]
  by_cases hdivisor : operation = .div → b.toInt ≠ 0
  · -- there is a result, so it is the size of it that does not hold
    rw [exactResult?_of_divisor hdivisor]
    exact if_neg fun hfits => h ⟨hdivisor, hfits⟩
  · obtain ⟨rfl, hzero⟩ := Classical.not_imp.mp hdivisor
    have hnone : Operator.div.exactResult? a.toInt b.toInt = none :=
      if_pos (Classical.not_not.mp hzero)
    exact congrArg (·.bind int64OfInt?) hnone

end Arithmetic

/-! ### Calculations -/

/-- An expression of integers and operations on them. -/
inductive Calculation where
  | integer (value : Int64)
  | apply (operation : Arithmetic) (left right : Calculation)

namespace Calculation

/-- The calculation as an expression. -/
def toExpr : Calculation → Expr
  | .integer value => .constant (.int value)
  | .apply operation left right => .binary operation.operator left.toExpr right.toExpr

/-- The value among integers of any size. -/
def value : Calculation → Int
  | .integer value => value.toInt
  | .apply operation left right => operation.result left.value right.value

/-- The parts in the order of their evaluation: those of the left operand, those of the right one,
    and the whole. -/
def stages : Calculation → List Calculation
  | .integer value => [.integer value]
  | .apply operation left right => left.stages ++ (right.stages ++ [.apply operation left right])

/-- Whether a part comes to an integer of 64 bits if its operands do. -/
def Holds : Calculation → Prop
  | .integer _ => True
  | .apply operation left right => operation.Holds left.value right.value

/-- A stage is the first one that does not hold. -/
def BreaksAt (calculation stage : Calculation) : Prop :=
  ∃ before after, calculation.stages = before ++ stage :: after ∧
    (∀ earlier ∈ before, earlier.Holds) ∧ ¬ stage.Holds

theorem not_forall_holds_of_breaksAt {calculation stage : Calculation}
    (h : calculation.BreaksAt stage) : ¬ ∀ part ∈ calculation.stages, part.Holds := by
  obtain ⟨before, after, hstages, -, hstage⟩ := h
  intro hall
  refine hstage (hall stage ?_)
  rw [hstages]
  exact List.mem_append_right _ List.mem_cons_self

section breaking
variable {operation : Arithmetic} {left right stage : Calculation}

theorem breaksAt_left (h : left.BreaksAt stage) : (apply operation left right).BreaksAt stage := by
  obtain ⟨before, after, hstages, hbefore, hstage⟩ := h
  refine ⟨before, after ++ (right.stages ++ [apply operation left right]), ?_, hbefore, hstage⟩
  rw [stages, hstages, List.append_assoc, List.cons_append]

theorem breaksAt_right (hleft : ∀ part ∈ left.stages, part.Holds) (h : right.BreaksAt stage) :
    (apply operation left right).BreaksAt stage := by
  obtain ⟨before, after, hstages, hbefore, hstage⟩ := h
  refine ⟨left.stages ++ before, after ++ [apply operation left right], ?_,
    List.forall_mem_append.mpr ⟨hleft, hbefore⟩, hstage⟩
  rw [stages, hstages, List.append_assoc, List.append_assoc, List.cons_append]

theorem breaksAt_whole (hleft : ∀ part ∈ left.stages, part.Holds)
    (hright : ∀ part ∈ right.stages, part.Holds)
    (h : ¬ operation.Holds left.value right.value) :
    (apply operation left right).BreaksAt (apply operation left right) := by
  refine ⟨left.stages ++ right.stages, [], ?_, List.forall_mem_append.mpr ⟨hleft, hright⟩, h⟩
  rw [stages, List.append_assoc]

end breaking

/-! ### Evaluation -/

section evaluation
variable (element? : Option Value)

/-- Operations evaluate both operands, the left one first. -/
theorem evaluate_apply (operation : Arithmetic) (left right : Calculation) :
    (apply operation left right).toExpr.evaluate element? =
      left.toExpr.evaluate element? >>= fun a => right.toExpr.evaluate element? >>= fun b =>
        operation.operator.arithmetic a b := by
  have hdeciding : operation.operator.deciding? = none := by cases operation <;> rfl
  have happly : ∀ a b, operation.operator.apply a b = operation.operator.arithmetic a b := by
    intro a b
    cases operation <;> rfl
  rw [toExpr, Expr.evaluate, Expr.run, hdeciding]
  simp only [Run.outcome_bind, Run.ofExcept_outcome, happly]
  rfl

/-- A calculation comes to its value, and all its stages hold; or it fails at the first one that
    does not, whose operands are then known. -/
theorem evaluate_cases (calculation : Calculation) :
    ((∀ stage ∈ calculation.stages, stage.Holds) ∧
      ∃ word : Int64, word.toInt = calculation.value ∧
        calculation.toExpr.evaluate element? = .ok (.int word)) ∨
    ∃ operation left right, calculation.BreaksAt (apply operation left right) ∧
      ∃ a b : Int64, a.toInt = left.value ∧ b.toInt = right.value ∧
        calculation.toExpr.evaluate element? =
          .error (.evaluation (.integer operation.operator a b)) := by
  induction calculation with
  | integer value =>
    exact .inl ⟨List.forall_mem_singleton.mpr trivial, value, rfl, rfl⟩
  | apply operation left right ihleft ihright =>
    rw [evaluate_apply]
    rcases ihleft with ⟨hleft, a, ha, heval⟩ | ⟨failed, x, y, hbreaks, a, b, ha, hb, heval⟩
    · rw [heval]
      rcases ihright with ⟨hright, b, hb, heval⟩ | ⟨failed, x, y, hbreaks, c, d, hc, hd, heval⟩
      · rw [heval]
        -- both operands are known, so it is this operation that decides
        by_cases hholds : operation.Holds left.value right.value
        · have hword := hholds
          rw [← ha, ← hb] at hword
          obtain ⟨word, hword, hvalue⟩ := Arithmetic.onIntegers?_of_holds hword
          refine .inl ⟨?_, word, by rw [hvalue, ha, hb]; rfl, ?_⟩
          · exact List.forall_mem_append.mpr
              ⟨hleft, List.forall_mem_append.mpr ⟨hright, List.forall_mem_singleton.mpr hholds⟩⟩
          · show operation.operator.arithmetic (.int a) (.int b) = _
            rw [Operator.arithmetic, hword]
        · have hnone := hholds
          rw [← ha, ← hb] at hnone
          have hnone := Arithmetic.onIntegers?_of_not_holds hnone
          refine .inr ⟨operation, left, right, breaksAt_whole hleft hright hholds, a, b, ha, hb, ?_⟩
          show operation.operator.arithmetic (.int a) (.int b) = _
          rw [Operator.arithmetic, hnone]
      · rw [heval]
        exact .inr ⟨failed, x, y, breaksAt_right hleft hbreaks, c, d, hc, hd, rfl⟩
    · -- the right operand is not looked at any more
      rw [heval]
      exact .inr ⟨failed, x, y, breaksAt_left hbreaks, a, b, ha, hb, rfl⟩

end evaluation

/-- The message names the operation and both operands. -/
theorem message_integer (operator : Operator) (a b : Int64) :
    (Failure.evaluation (.integer operator a b)).message =
      "Evaluation failed: integer " ++ operator.name ++ " of " ++ toString a.toInt ++ " and " ++
        toString b.toInt ++ " failed" := by
  have hmessage : (Failure.evaluation (.integer operator a b)).message =
      "Evaluation failed: " ++ ("integer " ++ operator.name ++ " of " ++ toString a.toInt ++
        " and " ++ toString b.toInt ++ " failed") := rfl
  have hfront : "Evaluation failed: integer " = "Evaluation failed: " ++ "integer " := by decide
  rw [hmessage, hfront]
  simp only [String.append_assoc]

/-- **Calculations are exact or fail.**  A calculation is evaluated to an
    integer exactly if all its stages hold, and the integer is then its value
    among integers of any size.  Otherwise it fails, and the failure names the
    first stage that does not hold: its operation and the values of both its
    operands. -/
theorem evaluate_calculation (calculation : Calculation) (element? : Option Value) :
    ((∃ word, calculation.toExpr.evaluate element? = .ok (.int word)) ↔
      ∀ stage ∈ calculation.stages, stage.Holds) ∧
    (∀ word, calculation.toExpr.evaluate element? = .ok (.int word) →
      word.toInt = calculation.value) ∧
    ((¬ ∀ stage ∈ calculation.stages, stage.Holds) →
      ∃ operation left right, calculation.BreaksAt (apply operation left right) ∧
        ∃ a b : Int64, a.toInt = left.value ∧ b.toInt = right.value ∧
          calculation.toExpr.evaluate element? =
            .error (.evaluation (.integer operation.operator a b)) ∧
          (Failure.evaluation (.integer operation.operator a b)).message =
            "Evaluation failed: integer " ++ operation.operator.name ++ " of " ++
              toString left.value ++ " and " ++ toString right.value ++ " failed") := by
  rcases calculation.evaluate_cases element? with
    ⟨hholds, word, hword, heval⟩ | ⟨operation, left, right, hbreaks, a, b, ha, hb, heval⟩
  · refine ⟨iff_of_true ⟨word, heval⟩ hholds, ?_, fun h => absurd hholds h⟩
    intro other hother
    rw [heval] at hother
    cases hother
    exact hword
  · have hfails : ∀ word, calculation.toExpr.evaluate element? ≠ .ok (.int word) := by
      intro word hword
      rw [heval] at hword
      cases hword
    refine ⟨iff_of_false (fun ⟨word, hword⟩ => hfails word hword)
      (not_forall_holds_of_breaksAt hbreaks), fun word hword => absurd hword (hfails word), ?_⟩
    intro _
    refine ⟨operation, left, right, hbreaks, a, b, ha, hb, heval, ?_⟩
    rw [← ha, ← hb, message_integer]

/-- The least integer divided by minus one, and one divided by zero, in a sum. -/
def twoFailures : Calculation :=
  .apply .add (.apply .div (.integer Int64.minValue) (.integer (-1)))
    (.apply .div (.integer 1) (.integer 0))

/-- The quotient on the left is one more than the greatest integer, so it fails, and the division
    by zero on the right is not the one that is named. -/
theorem least_by_minus_one_fails :
    (¬ ∀ stage ∈ twoFailures.stages, stage.Holds) ∧
    ∃ operation left right, twoFailures.BreaksAt (apply operation left right) ∧
      operation.operator = .div ∧ left.value = -9223372036854775808 ∧ right.value = -1 ∧
      twoFailures.toExpr.evaluate none =
        .error (.evaluation (.integer .div Int64.minValue (-1))) := by
  have hfails : ¬ ∀ stage ∈ twoFailures.stages, stage.Holds := by
    intro hall
    have hmem : .apply .div (.integer Int64.minValue) (.integer (-1)) ∈ twoFailures.stages := by
      simp [twoFailures, stages]
    exact absurd (hall _ hmem).2 (by decide)
  obtain ⟨operation, left, right, hbreaks, a, b, ha, hb, heval, -⟩ :=
    (evaluate_calculation twoFailures none).2.2 hfails
  have hrun : twoFailures.toExpr.evaluate none =
      .error (.evaluation (.integer .div Int64.minValue (-1))) := rfl
  rw [hrun] at heval
  injection heval with hfailure
  injection hfailure with hfault
  injection hfault with hoperator hleft hright
  subst hleft hright
  exact ⟨hfails, operation, left, right, hbreaks, hoperator.symm, ha.symm, hb.symm, hrun⟩

end Calculation

end ResourceFeed
