import ResourceFeed.Proofs.Query.Layers
import ResourceFeed.Proofs.Query.NormalForm

/-! # What folding does in the host program

    Reading a captured value and calling a function of the host program can
    be seen from outside, so it matters how often folding does it, in which
    order, and when it stops.

    Folding an expression is a turn of its largest closed parts, each run once
    without an element; an expression that is closed as a whole is no turn at
    all.  Folding a chain is the turn of its predicates and selectors from the
    source outward, and so the turn of all their closed parts.  The first part
    without a value ends it, and this part alone decides the failure.
-/

namespace ResourceFeed

/-! ### A run that is a turn of others -/

/-- A run has the events of the given runs, one after another up to the first one that fails, and
    it fails exactly if one of them does, as the first one that does. -/
structure Run.MakesInTurn (run : Run β) (runs : List (Run α)) : Prop where
  events : run.events = (Run.made runs).flatMap Run.events
  failure : run.failure? = runs.findSome? Run.failure?

/-- A turn that ends with a value. -/
theorem Run.makesInTurn_inTurn (runs : List (Run α)) (value : β) :
    (Run.inTurn runs >>= fun _ => pure value).MakesInTurn runs := by
  cases hturn : (Run.inTurn runs).outcome with
  | ok done =>
    rw [Run.bind_of_ok hturn]
    refine ⟨(List.append_nil _).trans (Run.events_inTurn runs), ?_⟩
    rw [← Run.failure?_inTurn, Run.failure?_eq_none_iff.mpr ⟨done, hturn⟩]
    rfl
  | error failure =>
    rw [Run.bind_of_error hturn]
    refine ⟨Run.events_inTurn runs, ?_⟩
    rw [← Run.failure?_inTurn, Run.failure?_eq_some_iff.mpr hturn]
    rfl

/-! ### One expression -/

namespace Expr

/-- The parts that folding runs: the largest closed ones, and none if that is the whole. -/
def foldedParts (expr : Expr) : List Expr :=
  if expr.isClosed then [] else expr.closedParts

/-- The expression after folding. -/
def simplified (expr : Expr) : Expr :=
  if expr.isClosed then expr else expr.mapClosed settled

theorem simplify_eq (expr : Expr) :
    expr.simplify =
      Run.inTurn (expr.foldedParts.map (run none)) >>= fun _ => pure expr.simplified := by
  unfold simplify foldedParts simplified
  split
  · rfl
  · rw [fold_eq, runClosedParts]

/-- What an expression that simplifies becomes. -/
theorem eq_simplified_of_simplify {expr simplified : Expr}
    (h : expr.simplify.outcome = .ok simplified) : simplified = expr.simplified := by
  rw [simplify_eq] at h
  obtain ⟨_, _, hsimplified⟩ := Run.outcome_bind_eq_ok.mp h
  exact (Except.ok.inj hsimplified).symm

/-- To simplify expressions in turn is to run all their folded parts in turn. -/
theorem inTurn_simplify (exprs : List Expr) :
    Run.inTurn (exprs.map simplify) =
      Run.inTurn ((exprs.flatMap foldedParts).map (run none)) := by
  induction exprs with
  | nil => rfl
  | cons first rest ih =>
    rw [List.flatMap_cons, List.map_append, Run.inTurn_append, List.map_cons, Run.inTurn, ih,
      simplify_eq]
    simp only [bind_assoc, pure_bind]

end Expr

/-! ### One chain -/

/-- The predicate or the selector of a layer. -/
def Layer.expression? : Layer → Option Expr
  | .filter predicate => some predicate
  | .project selector => some selector
  | .related _ => none

namespace Chain

/-- The predicates and selectors, from the source outward. -/
def expressions (chain : Chain) : List Expr :=
  chain.layers.filterMap Layer.expression?

theorem expressions_filter (input : Chain) (predicate : Expr) :
    (Chain.filter input predicate).expressions = input.expressions ++ [predicate] := by
  rw [expressions, layers, List.filterMap_append, expressions]
  rfl

theorem expressions_project (input : Chain) (selector : Expr) :
    (Chain.project input selector).expressions = input.expressions ++ [selector] := by
  rw [expressions, layers, List.filterMap_append, expressions]
  rfl

theorem expressions_related (input : Chain) (member : String) :
    (Chain.related input member).expressions = input.expressions := by
  rw [expressions, layers, List.filterMap_append, expressions]
  exact List.append_nil _

/-- The chain after folding. -/
def simplified : Chain → Chain
  | .source kind => .source kind
  | .filter input predicate => .filter input.simplified predicate.simplified
  | .project input selector => .project input.simplified selector.simplified
  | .related input member => .related input.simplified member

/-- Folding a chain simplifies its predicates and selectors in turn. -/
theorem fold_eq (chain : Chain) :
    chain.fold =
      Run.inTurn (chain.expressions.map Expr.simplify) >>= fun _ => pure chain.simplified := by
  induction chain with
  | source kind => rfl
  | filter input predicate ih =>
    rw [fold, ih, expressions_filter, List.map_append, Run.inTurn_append, List.map_singleton,
      Run.inTurn_singleton, predicate.simplify_eq, simplified]
    simp only [bind_assoc, pure_bind]
  | project input selector ih =>
    rw [fold, ih, expressions_project, List.map_append, Run.inTurn_append, List.map_singleton,
      Run.inTurn_singleton, selector.simplify_eq, simplified]
    simp only [bind_assoc, pure_bind]
  | related input member ih =>
    rw [fold, ih, expressions_related, simplified]
    simp only [bind_assoc, pure_bind]

end Chain

/-! ### What is made in turn -/

/-- Simplifying an expression makes the runs of its folded parts in turn. -/
theorem Expr.makesInTurn_simplify (expr : Expr) :
    expr.simplify.MakesInTurn (expr.foldedParts.map (run none)) := by
  rw [simplify_eq]
  exact Run.makesInTurn_inTurn _ _

/-- Folding a chain simplifies its predicates and selectors in turn. -/
theorem Chain.makesInTurn_fold (chain : Chain) :
    chain.fold.MakesInTurn (chain.expressions.map Expr.simplify) := by
  rw [fold_eq]
  exact Run.makesInTurn_inTurn _ _

/-- So it makes the runs of all their folded parts in turn. -/
theorem Chain.makesInTurn_fold_parts (chain : Chain) :
    chain.fold.MakesInTurn ((chain.expressions.flatMap Expr.foldedParts).map (Expr.run none)) := by
  rw [fold_eq, Expr.inTurn_simplify]
  exact Run.makesInTurn_inTurn _ _

/-- The closed filter runs nothing, and after the call that fails nothing is read any more. -/
example :
    (Chain.filter (.filter (.filter (.source "contacts") (.capture "all" (.bool true)))
        (.binary .lt (.field "Age") (.call "limit" (fun _ => .ok (.int 30)) [])))
        (.binary .eq (.call "name" (fun _ => .error (.evaluation .unbound)) [.capture "id" (.int 1)])
          (.binary .add (.field "Age") (.capture "more" (.int 2))))).fold
      = ⟨[.call "limit", .capture "id", .call "name"], .error (.evaluation .unbound)⟩ := by
  rfl

end ResourceFeed
