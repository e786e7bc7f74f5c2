import ResourceFeed.Proofs.Query.HostEvents
import ResourceFeed.Proofs.Query.Marking

/-! # Folding in a stateful host

    The functions and captured values of a stateful host answer by what was
    asked of it before, so an evaluation that is made twice, out of order or
    in vain can be seen in all that comes after it.

    Things done *in turn* are each done once, in the state that the one before
    it leaves, and none is done after one that fails.  Folding does the
    evaluations of the largest closed parts in turn, and nothing else; folding
    a chain does so for its predicates and selectors from the source outward.
    That holds for any monad; what it comes to in a state is said for one turn,
    by induction on what is done.
-/

namespace ResourceFeed

/-! ### Stateful hosts as a monad -/

namespace Hosted

variable {State α β γ : Type}

/-- After a success, what follows is done in the state that is left. -/
theorem bind_of_ok {first : Hosted State α} {state : State} {value : α}
    (h : (first state).outcome = .ok value) (next : α → Hosted State β) :
    (first >>= next) state =
      ⟨(first state).accesses ++ (next value (first state).state).accesses,
        (next value (first state).state).outcome, (next value (first state).state).state⟩ := by
  show andThen first next state = _
  simp only [andThen, h]

/-- After a failure, what follows is not done. -/
theorem bind_of_error {first : Hosted State α} {state : State} {failure : Failure}
    (h : (first state).outcome = .error failure) (next : α → Hosted State β) :
    (first >>= next) state = ⟨(first state).accesses, .error failure, (first state).state⟩ := by
  show andThen first next state = _
  simp only [andThen, h]

theorem andThen_pure (first : Hosted State α) : (first >>= fun value => pure value) = first := by
  funext state
  cases h : (first state).outcome with
  | ok value =>
    rw [bind_of_ok h]
    show (⟨_ ++ [], .ok value, (first state).state⟩ : Performance State α) = first state
    rw [List.append_nil, ← h]
  | error failure =>
    rw [bind_of_error h, ← h]

theorem pure_andThen (value : α) (next : α → Hosted State β) :
    (pure value : Hosted State α) >>= next = next value := rfl

theorem andThen_assoc (first : Hosted State α) (next : α → Hosted State β)
    (last : β → Hosted State γ) :
    first >>= next >>= last = first >>= fun value => next value >>= last := by
  funext state
  -- the first failure ends both sides, with the accesses up to it
  cases hfirst : (first state).outcome with
  | error failure =>
    have hboth := bind_of_error hfirst next
    rw [bind_of_error hfirst, bind_of_error (congrArg Performance.outcome hboth), hboth]
  | ok value =>
    have hboth := bind_of_ok hfirst next
    rw [bind_of_ok hfirst]
    cases hnext : (next value (first state).state).outcome with
    | error failure =>
      rw [bind_of_error ((congrArg Performance.outcome hboth).trans hnext), hboth,
        bind_of_error hnext]
    | ok between =>
      rw [bind_of_ok ((congrArg Performance.outcome hboth).trans hnext), hboth, bind_of_ok hnext]
      exact congrArg (Performance.mk · _ _) (List.append_assoc _ _ _)

instance : LawfulMonad (Hosted State) :=
  LawfulMonad.mk' (Hosted State) andThen_pure pure_andThen andThen_assoc

end Hosted

/-! ### What is done in turn -/

namespace Performance

variable {State α β : Type}

/-- The failure of a performance, if it fails. -/
def failure? (done : Performance State α) : Option Failure :=
  match done.outcome with
  | .ok _ => none
  | .error failure => some failure

theorem failure?_of_ok {done : Performance State α} {value : α} (h : done.outcome = .ok value) :
    done.failure? = none := by
  rw [failure?, h]

theorem failure?_of_error {done : Performance State α} {failure : Failure}
    (h : done.outcome = .error failure) : done.failure? = some failure := by
  rw [failure?, h]

/-- The state that performances leave, one after another. -/
def stateAfter (state : State) : List (Performance State α) → State
  | [] => state
  | first :: rest => stateAfter first.state rest

/-- But for its result, a performance is a list of performances from a state on: it has their
    accesses, fails exactly if one of them does, as the first one that does, and leaves the state
    that they leave. -/
structure Comprises (whole : Performance State β) (state : State)
    (parts : List (Performance State α)) : Prop where
  accesses : whole.accesses = parts.flatMap Performance.accesses
  failure : whole.failure? = parts.findSome? failure?
  left : whole.state = stateAfter state parts

end Performance

namespace Hosted

variable {State α β : Type}

/-- The performances of things done in turn: each in the state that the one before it leaves, up to
    the first one that fails. -/
def performances (state : State) : List (Hosted State α) → List (Performance State α)
  | [] => []
  | first :: rest =>
    match (first state).failure? with
    | none => first state :: performances (first state).state rest
    | some _ => [first state]

/-- But for its result, to do a thing is to do other things in turn. -/
def MakesInTurn (whole : Hosted State β) (parts : List (Hosted State α)) : Prop :=
  ∀ state, (whole state).Comprises state (performances state parts)

/-- What is done before a turn, and has no result, adds its own performance to those of the turn. -/
theorem MakesInTurn.cons {turn : Hosted State PUnit} {rest : List (Hosted State α)}
    (hturn : turn.MakesInTurn rest) (first : Hosted State α) :
    (first >>= fun _ => turn).MakesInTurn (first :: rest) := by
  intro state
  rw [performances]
  cases h : (first state).outcome with
  | ok value =>
    have hrest := hturn (first state).state
    rw [bind_of_ok h, Performance.failure?_of_ok h]
    refine ⟨?_, ?_, hrest.left⟩
    · rw [List.flatMap_cons, ← hrest.accesses]
    · rw [List.findSome?_cons, Performance.failure?_of_ok h]
      exact hrest.failure
  | error failure =>
    rw [bind_of_error h, Performance.failure?_of_error h]
    refine ⟨?_, ?_, rfl⟩
    · rw [List.flatMap_singleton]
    · rw [List.findSome?_singleton, Performance.failure?_of_error h]
      rfl

/-- What a turn comes to in a state, by induction on what is done in it. -/
theorem makesInTurn_forM (parts : List (Hosted State α)) :
    (parts.forM discard : Hosted State PUnit).MakesInTurn parts := by
  induction parts with
  | nil => exact fun _ => ⟨rfl, rfl, rfl⟩
  | cons first rest ih =>
    have hfirst : ((first :: rest).forM discard : Hosted State PUnit) =
        first >>= fun _ => rest.forM discard := by
      show (discard first >>= fun _ => rest.forM discard) = _
      rw [discard_eq_bind, bind_assoc]
      rfl
    rw [hfirst]
    exact ih.cons first

/-- What runs in turn in the monad is made in turn in every state. -/
theorem makesInTurn_of_runsInTurn {whole : Hosted State β} {parts : List (Hosted State α)}
    (h : RunsInTurn whole parts) : whole.MakesInTurn parts := by
  intro state
  have hturn := makesInTurn_forM parts state
  rw [← show discard whole = parts.forM discard from h, discard_eq_bind] at hturn
  -- what is discarded is the result alone
  cases hwhole : (whole state).outcome with
  | ok value =>
    rw [bind_of_ok hwhole] at hturn
    refine ⟨(List.append_nil _).symm.trans hturn.accesses, ?_, hturn.left⟩
    rw [Performance.failure?_of_ok hwhole]
    exact hturn.failure
  | error failure =>
    rw [bind_of_error hwhole] at hturn
    refine ⟨hturn.accesses, ?_, hturn.left⟩
    rw [Performance.failure?_of_error hwhole]
    exact hturn.failure

end Hosted

/-! ### Expressions and chains -/

section turns
variable {m : Type → Type} [Monad m] [LawfulMonad m] (evaluate : Expr → m Value)

theorem Expr.runsInTurn_simplifyBy (expr : Expr) :
    RunsInTurn (expr.simplifyBy evaluate) (expr.foldedParts.map evaluate) := by
  rw [simplifyBy, foldedParts, isClosed_mark]
  split
  · exact runsInTurn_pure expr
  · exact expr.runsInTurn_foldBy evaluate

namespace Chain

/-- Folding a chain simplifies its predicates and selectors in turn. -/
theorem runsInTurn_foldBy (chain : Chain) :
    RunsInTurn (chain.foldBy evaluate) (chain.expressions.map (Expr.simplifyBy evaluate)) := by
  induction chain with
  | source kind => exact runsInTurn_pure _
  | filter input predicate ih =>
    rw [foldBy, expressions_filter, List.map_append, List.map_singleton]
    exact ih.bind fun _ => (runsInTurn_singleton _).map _
  | project input selector ih =>
    rw [foldBy, expressions_project, List.map_append, List.map_singleton]
    exact ih.bind fun _ => (runsInTurn_singleton _).map _
  | related input member ih =>
    rw [foldBy, expressions_related]
    exact ih.map _

/-- So it evaluates the folded parts of all of them in turn. -/
theorem runsInTurn_parts (chain : Chain) :
    RunsInTurn (chain.foldBy evaluate)
      ((chain.expressions.flatMap Expr.foldedParts).map evaluate) := by
  induction chain with
  | source kind => exact runsInTurn_pure _
  | filter input predicate ih =>
    rw [foldBy, expressions_filter, List.flatMap_append, List.flatMap_singleton, List.map_append]
    exact ih.bind fun _ => (predicate.runsInTurn_simplifyBy evaluate).map _
  | project input selector ih =>
    rw [foldBy, expressions_project, List.flatMap_append, List.flatMap_singleton, List.map_append]
    exact ih.bind fun _ => (selector.runsInTurn_simplifyBy evaluate).map _
  | related input member ih =>
    rw [foldBy, expressions_related]
    exact ih.map _

end Chain

end turns

/-! ### Main statement -/

/-- The evaluation of an expression without an element, in the host that a program is. -/
def HostProgram.evaluate {State : Type} (program : HostProgram State) (expr : Expr) :
    Hosted State Value :=
  expr.runIn program.host none

/-- **Folding runs each closed part once and in order.**  Whatever the functions and captured values
    of a host answer, and however this depends on what was asked before: simplifying an expression
    evaluates its folded parts without an element, once each, from left to right, each in the state
    that the one before it leaves, up to the first one that fails; it asks nothing else of the host,
    and fails exactly if one of them does, as the first one that does.  Folding a chain does the
    same with the folded parts of all its predicates and selectors, and simplifies these one by one
    from the source outward: the innermost one that fails decides the failure.

    The running fold is the one for hosts without a state, and does so, too. -/
theorem folding_runs_closed_parts_in_turn :
    (∀ {State : Type} (program : HostProgram State),
      (∀ expr : Expr,
        (expr.simplifyBy program.evaluate).MakesInTurn
          (expr.foldedParts.map program.evaluate)) ∧
      ∀ chain : Chain,
        (chain.foldBy program.evaluate).MakesInTurn
          ((chain.expressions.flatMap Expr.foldedParts).map program.evaluate) ∧
        (chain.foldBy program.evaluate).MakesInTurn
          (chain.expressions.map (Expr.simplifyBy program.evaluate))) ∧
    (∀ expr : Expr,
      expr.simplify = expr.simplifyBy (Expr.runIn Run.host none) ∧
      expr.simplify.MakesInTurn (expr.foldedParts.map (Expr.run none))) ∧
    ∀ chain : Chain,
      chain.fold = chain.foldBy (Expr.runIn Run.host none) ∧
      chain.fold.MakesInTurn ((chain.expressions.flatMap Expr.foldedParts).map (Expr.run none)) ∧
      chain.fold.MakesInTurn (chain.expressions.map Expr.simplify) := by
  have hrun : Expr.runIn Run.host none = Expr.run none := funext (Expr.runIn_host none)
  refine ⟨fun program => ⟨fun expr => ?_, fun chain => ⟨?_, ?_⟩⟩, fun expr => ⟨?_, ?_⟩,
    fun chain => ⟨?_, ?_, ?_⟩⟩
  -- in a stateful host each of the three is a turn in the monad
  · exact Hosted.makesInTurn_of_runsInTurn (expr.runsInTurn_simplifyBy program.evaluate)
  · exact Hosted.makesInTurn_of_runsInTurn (chain.runsInTurn_parts program.evaluate)
  · exact Hosted.makesInTurn_of_runsInTurn (chain.runsInTurn_foldBy program.evaluate)
  · rw [hrun, expr.simplifyBy_run]
  · exact expr.makesInTurn_simplify
  · rw [hrun, chain.foldBy_run]
  · exact chain.makesInTurn_fold_parts
  · exact chain.makesInTurn_fold

/-- A host in which every call answers how many there were before, and the third one fails. -/
def counting : HostProgram Nat where
  read _ value calls := (value, calls)
  call _ _ _ calls :=
    (if calls = 2 then .error (.evaluation .unbound) else .ok (.int (Int64.ofNat calls)), calls + 1)

/-- The same call answers differently each time, and after the third one nothing is asked. -/
example :
    let next : Expr := .call "next" (fun _ => .ok .null) [.constant (.text "id")]
    let above (floor : Expr) : Expr := .binary .gt (.field "Age") floor
    (Chain.filter (.filter (.source "contacts") (above (.binary .add next next)))
        (above (.binary .add next (.capture "more" (.int 2))))).foldBy counting.evaluate 0 =
      ⟨[.call "next" (fun _ => .ok .null) [.text "id"], .call "next" (fun _ => .ok .null) [.text "id"],
        .call "next" (fun _ => .ok .null) [.text "id"]], .error (.evaluation .unbound), 3⟩ := by
  rfl

end ResourceFeed
