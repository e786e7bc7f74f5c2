import ResourceFeed.Proofs.Query.Folding
import ResourceFeed.Proofs.Query.InTurn
import ResourceFeed.Proofs.Query.Nodes
import ResourceFeed.Query.Host
import ResourceFeed.Query.Marked

/-! # Folding by marks

    The marks of an expression stand beside its operands: every operand finds
    its own, and none finds none.  So folding by marks has one equation for
    each form of an expression, in which no mark is left, and these are the
    equations of the running fold (`foldBy_mark`).

    In any lawful monad, folding does what the evaluations of the largest
    closed parts do in turn, whatever these do (`runsInTurn_foldBy`).
-/

namespace ResourceFeed

/-! ### One computation that does what others do -/

section turns
variable {m : Type → Type} [Monad m] {α β γ : Type}

/-- But for its result, a computation does what others do, one after another. -/
def RunsInTurn (whole : m β) (parts : List (m α)) : Prop :=
  discard whole = parts.forM discard

variable [LawfulMonad m]

theorem discard_eq_bind (computation : m α) :
    discard computation = computation >>= fun _ => pure PUnit.unit := by
  rw [discard, map_const, Function.comp_apply, map_eq_pure_bind]

theorem runsInTurn_pure (value : β) : RunsInTurn (pure value : m β) ([] : List (m α)) := by
  rw [RunsInTurn, discard_eq_bind, pure_bind]
  rfl

theorem runsInTurn_singleton (part : m α) : RunsInTurn part [part] := by
  show discard part = discard part >>= fun _ => pure PUnit.unit
  exact (bind_pure (discard part)).symm

theorem RunsInTurn.bind {whole : m β} {next : β → m γ} {parts later : List (m α)}
    (hwhole : RunsInTurn whole parts) (hnext : ∀ value, RunsInTurn (next value) later) :
    RunsInTurn (whole >>= next) (parts ++ later) := by
  have hlater : ∀ value, (next value >>= fun _ => pure PUnit.unit) = later.forM discard :=
    fun value => (discard_eq_bind (next value)).symm.trans (hnext value)
  calc discard (whole >>= next)
      = whole >>= fun value => next value >>= fun _ => pure PUnit.unit := by
        rw [discard_eq_bind, bind_assoc]
    _ = whole >>= fun _ => later.forM discard := by simp only [hlater]
    _ = discard whole >>= fun _ => later.forM discard := by
        rw [discard_eq_bind, bind_assoc]
        simp only [pure_bind]
    _ = (parts ++ later).forM discard := by
        rw [hwhole]
        exact List.forM_append.symm

theorem RunsInTurn.map {whole : m β} {parts : List (m α)} (hwhole : RunsInTurn whole parts)
    (result : β → γ) : RunsInTurn (whole >>= fun value => pure (result value)) parts := by
  have hbind := hwhole.bind fun value => runsInTurn_pure (m := m) (α := α) (result value)
  rwa [List.append_nil] at hbind

end turns

/-! ### The marks of an expression -/

namespace Expr

mutual

/-- An expression is marked as closed if it is. -/
theorem isClosed_mark : ∀ expr : Expr, expr.mark.isClosed = expr.isClosed
  | .element => rfl
  | .member target name => by
    rw [mark, isClosed, ← isClosed_mark target]
    exact Bool.and_true _
  | .constant _ => rfl
  | .binary operator left right => by
    rw [mark, isClosed, ← isClosed_mark left, ← isClosed_mark right]
    exact congrArg (left.mark.isClosed && ·) (Bool.and_true _)
  | .call name function arguments => all_isClosed_argumentMarks arguments
  | .capture _ _ => rfl
  | .construct fields => all_isClosed_fieldMarks fields

theorem all_isClosed_argumentMarks : ∀ arguments : List Expr,
    (argumentMarks arguments).all Mark.isClosed = areClosed arguments
  | [] => rfl
  | expr :: rest => by
    rw [argumentMarks, List.all_cons, isClosed_mark expr, all_isClosed_argumentMarks rest,
      areClosed]

theorem all_isClosed_fieldMarks : ∀ fields : List (String × Expr),
    (fieldMarks fields).all Mark.isClosed = fieldsAreClosed fields
  | [] => rfl
  | (name, expr) :: rest => by
    rw [fieldMarks, List.all_cons, isClosed_mark expr, all_isClosed_fieldMarks rest,
      fieldsAreClosed]

end

/-! ### Folding by these marks -/

section folding
variable {m : Type → Type} [Monad m] (evaluate : Expr → m Value)

theorem foldBy_of_isClosed {expr : Expr} (hclosed : expr.isClosed = true) :
    foldBy evaluate expr.mark expr = evaluate expr >>= fun value => pure (.constant value) := by
  rw [foldBy.eq_def, if_pos ((isClosed_mark expr).trans hclosed)]

/-- The condition under which a node is not evaluated. -/
theorem isClosed_mark_ne_true (expr : Expr) (hopen : expr.isClosed = false) :
    ¬ expr.mark.isClosed = true := by
  rw [isClosed_mark, hopen]
  exact Bool.false_ne_true

theorem foldBy_member {target : Expr} (hopen : target.isClosed = false) (name : String) :
    foldBy evaluate (Expr.member target name).mark (.member target name) =
      foldBy evaluate target.mark target >>= fun target => pure (.member target name) := by
  rw [foldBy.eq_def, if_neg (isClosed_mark_ne_true (.member target name) hopen)]
  rfl

theorem foldBy_binary {operator : Operator} {left right : Expr}
    (hopen : (Expr.binary operator left right).isClosed = false) :
    foldBy evaluate (Expr.binary operator left right).mark (.binary operator left right) =
      foldBy evaluate left.mark left >>= fun left =>
        foldBy evaluate right.mark right >>= fun right => pure (.binary operator left right) := by
  rw [foldBy.eq_def, if_neg (isClosed_mark_ne_true (.binary operator left right) hopen)]
  rfl

/-- Each argument takes its own mark. -/
theorem foldArgumentsBy_argumentMarks_cons (first : Expr) (rest : List Expr) :
    foldArgumentsBy evaluate (argumentMarks (first :: rest)) (first :: rest) =
      foldBy evaluate first.mark first >>= fun first =>
        foldArgumentsBy evaluate (argumentMarks rest) rest >>= fun rest => pure (first :: rest) :=
  rfl

/-- Each field takes its own mark. -/
theorem foldFieldsBy_fieldMarks_cons (name : String) (first : Expr)
    (rest : List (String × Expr)) :
    foldFieldsBy evaluate (fieldMarks ((name, first) :: rest)) ((name, first) :: rest) =
      foldBy evaluate first.mark first >>= fun first =>
        foldFieldsBy evaluate (fieldMarks rest) rest >>= fun rest =>
          pure ((name, first) :: rest) :=
  rfl

theorem foldBy_call {name : String} {function : HostFunction} {arguments : List Expr}
    (hopen : areClosed arguments = false) :
    foldBy evaluate (Expr.call name function arguments).mark (.call name function arguments) =
      foldArgumentsBy evaluate (argumentMarks arguments) arguments >>= fun arguments =>
        pure (.call name function arguments) := by
  rw [foldBy.eq_def, if_neg (isClosed_mark_ne_true (.call name function arguments) hopen)]
  rfl

theorem foldBy_construct {fields : List (String × Expr)} (hopen : fieldsAreClosed fields = false) :
    foldBy evaluate (Expr.construct fields).mark (.construct fields) =
      foldFieldsBy evaluate (fieldMarks fields) fields >>= fun fields =>
        pure (.construct fields) := by
  rw [foldBy.eq_def, if_neg (isClosed_mark_ne_true (.construct fields) hopen)]
  rfl

end folding

/-! ### The running fold -/

theorem foldArgumentsBy_run {arguments : List Expr}
    (ih : ∀ argument ∈ arguments, foldBy (run none) argument.mark argument = argument.fold) :
    foldArgumentsBy (run none) (argumentMarks arguments) arguments = foldArguments arguments := by
  induction arguments with
  | nil => rfl
  | cons first rest ihrest =>
    obtain ⟨hfirst, hrest⟩ := List.forall_mem_cons.mp ih
    rw [foldArgumentsBy_argumentMarks_cons, hfirst, ihrest hrest, foldArguments]

theorem foldFieldsBy_run {fields : List (String × Expr)}
    (ih : ∀ field ∈ fields, foldBy (run none) field.2.mark field.2 = field.2.fold) :
    foldFieldsBy (run none) (fieldMarks fields) fields = foldFields fields := by
  induction fields with
  | nil => rfl
  | cons first rest ihrest =>
    obtain ⟨hfirst, hrest⟩ := List.forall_mem_cons.mp ih
    rw [foldFieldsBy_fieldMarks_cons, hfirst, ihrest hrest, foldFields]

/-- Folding by marks is the running fold. -/
theorem foldBy_mark (expr : Expr) : foldBy (run none) expr.mark expr = expr.fold := by
  -- on the open nodes: below a closed one nothing is folded
  induction expr using open_induction with
  | closed expr hclosed => rw [foldBy_of_isClosed (run none) hclosed, fold_of_isClosed hclosed]
  | element => rfl
  | member target name hopen ih => rw [foldBy_member (run none) hopen, fold_member hopen, ih]
  | binary operator left right hopen ihleft ihright =>
    rw [foldBy_binary (run none) hopen, fold_binary hopen, ihleft, ihright]
  | call name function arguments hopen ih =>
    rw [foldBy_call (run none) hopen, fold_call hopen, foldArgumentsBy_run ih]
  | construct fields hopen ih =>
    rw [foldBy_construct (run none) hopen, fold_construct hopen, foldFieldsBy_run ih]

/-- Simplifying by marks is the running one. -/
theorem simplifyBy_run (expr : Expr) : expr.simplifyBy (run none) = expr.simplify := by
  rw [simplifyBy, simplify, isClosed_mark, foldBy_mark]

end Expr

/-- Folding a chain by marks is the running fold. -/
theorem Chain.foldBy_run (chain : Chain) : chain.foldBy (Expr.run none) = chain.fold := by
  induction chain with
  | source kind => rfl
  | filter input predicate ih => rw [foldBy, fold, ih, predicate.simplifyBy_run]
  | project input selector ih => rw [foldBy, fold, ih, selector.simplifyBy_run]
  | related input member ih => rw [foldBy, fold, ih]

/-! ### Folding in any monad -/

namespace Expr

section turns
variable {m : Type → Type} [Monad m] [LawfulMonad m] (evaluate : Expr → m Value)

theorem runsInTurn_foldArgumentsBy {arguments : List Expr}
    (ih : ∀ argument ∈ arguments,
      RunsInTurn (foldBy evaluate argument.mark argument) (argument.closedParts.map evaluate)) :
    RunsInTurn (foldArgumentsBy evaluate (argumentMarks arguments) arguments)
      ((arguments.flatMap closedParts).map evaluate) := by
  induction arguments with
  | nil => exact runsInTurn_pure _
  | cons first rest ihrest =>
    obtain ⟨hfirst, hrest⟩ := List.forall_mem_cons.mp ih
    rw [foldArgumentsBy_argumentMarks_cons, List.flatMap_cons, List.map_append]
    exact hfirst.bind fun _ => (ihrest hrest).map _

theorem runsInTurn_foldFieldsBy {fields : List (String × Expr)}
    (ih : ∀ field ∈ fields,
      RunsInTurn (foldBy evaluate field.2.mark field.2) (field.2.closedParts.map evaluate)) :
    RunsInTurn (foldFieldsBy evaluate (fieldMarks fields) fields)
      ((fields.flatMap fun field => field.2.closedParts).map evaluate) := by
  induction fields with
  | nil => exact runsInTurn_pure _
  | cons first rest ihrest =>
    obtain ⟨hfirst, hrest⟩ := List.forall_mem_cons.mp ih
    rw [foldFieldsBy_fieldMarks_cons, List.flatMap_cons, List.map_append]
    exact hfirst.bind fun _ => (ihrest hrest).map _

/-- Folding evaluates the largest closed parts in turn. -/
theorem runsInTurn_foldBy (expr : Expr) :
    RunsInTurn (foldBy evaluate expr.mark expr) (expr.closedParts.map evaluate) := by
  induction expr using open_induction with
  | closed expr hclosed =>
    rw [foldBy_of_isClosed evaluate hclosed, closedParts_of_isClosed hclosed, List.map_singleton]
    exact (runsInTurn_singleton (evaluate expr)).map _
  | element => exact runsInTurn_pure _
  | member target name hopen ih =>
    rw [foldBy_member evaluate hopen, closedParts_member hopen]
    exact ih.map _
  | binary operator left right hopen ihleft ihright =>
    rw [foldBy_binary evaluate hopen, closedParts_binary hopen, List.map_append]
    exact ihleft.bind fun _ => ihright.map _
  | call name function arguments hopen ih =>
    rw [foldBy_call evaluate hopen, closedParts_call hopen]
    exact (runsInTurn_foldArgumentsBy evaluate ih).map _
  | construct fields hopen ih =>
    rw [foldBy_construct evaluate hopen, closedParts_construct hopen]
    exact (runsInTurn_foldFieldsBy evaluate ih).map _

end turns

end Expr

end ResourceFeed
