import ResourceFeed.Query.Run

/-! # Runs in turn

    Runs are made *in turn* if each one starts when the one before it has
    succeeded; the first one that fails ends the turn.  What such a turn does
    can be said without following it: the runs made are those up to the first
    failure, their events come one after another, and the first failure there
    is decides the outcome.
-/

namespace ResourceFeed.Run

/-! ### Runs as a monad -/

/-- After a success, what follows adds its events and has the outcome. -/
theorem bind_of_ok {run : Run α} {value : α} (h : run.outcome = .ok value) (next : α → Run β) :
    run >>= next = ⟨run.events ++ (next value).events, (next value).outcome⟩ := by
  rw [bind_eq_andThen, andThen, h]

/-- After a failure, what follows is not done. -/
theorem bind_of_error {run : Run α} {failure : Failure} (h : run.outcome = .error failure)
    (next : α → Run β) : run >>= next = ⟨run.events, .error failure⟩ := by
  rw [bind_eq_andThen, andThen, h]

theorem pure_andThen (value : α) (next : α → Run β) : (pure value : Run α) >>= next = next value :=
  rfl

theorem andThen_pure (run : Run α) : (run >>= fun value => pure value) = run := by
  obtain ⟨events, outcome⟩ := run
  cases outcome with
  | ok value => rw [bind_of_ok rfl, pure_events, List.append_nil, pure_outcome]
  | error failure => rw [bind_of_error rfl]

theorem andThen_assoc (run : Run α) (next : α → Run β) (last : β → Run γ) :
    run >>= next >>= last = run >>= fun value => next value >>= last := by
  -- the first failure ends both sides, with the events up to it
  cases hrun : run.outcome with
  | error failure => rw [bind_of_error hrun, bind_of_error rfl, bind_of_error hrun]
  | ok value =>
    rw [bind_of_ok hrun, bind_of_ok hrun]
    cases hnext : (next value).outcome with
    | error failure => rw [bind_of_error rfl, bind_of_error hnext]
    | ok between => rw [bind_of_ok rfl, bind_of_ok hnext, List.append_assoc]

instance : LawfulMonad Run := LawfulMonad.mk' Run andThen_pure pure_andThen andThen_assoc

/-! ### One run after another -/

/-- What follows a run does not fail if it succeeds on every result. -/
theorem outcome_bind_eq_error_iff_left {run : Run α} {next : α → Run β} {failure : Failure}
    (h : ∀ value, run.outcome = .ok value → ∃ result, (next value).outcome = .ok result) :
    (run >>= next).outcome = .error failure ↔ run.outcome = .error failure := by
  rw [outcome_bind_eq_error]
  refine or_iff_left ?_
  rintro ⟨value, hvalue, herror⟩
  obtain ⟨result, hresult⟩ := h value hvalue
  rw [hresult] at herror
  cases herror

/-- Makes the runs one after another, until one fails. -/
def inTurn : List (Run α) → Run Unit
  | [] => pure ()
  | first :: rest => do
    let _ ← first
    inTurn rest

theorem inTurn_singleton (run : Run α) : inTurn [run] = run >>= fun _ => pure () := rfl

theorem inTurn_append (first second : List (Run α)) :
    inTurn (first ++ second) = inTurn first >>= fun _ => inTurn second := by
  induction first with
  | nil => rw [List.nil_append, inTurn, pure_bind]
  | cons run rest ih => simp only [List.cons_append, inTurn, ih, bind_assoc]

/-- Runs that only have a value do nothing in turn. -/
theorem inTurn_of_pure {runs : List (Run α)} (h : ∀ run ∈ runs, ∃ value, run = pure value) :
    inTurn runs = pure () := by
  induction runs with
  | nil => rfl
  | cons first rest ih =>
    obtain ⟨⟨value, rfl⟩, hrest⟩ := List.forall_mem_cons.mp h
    rw [inTurn, pure_bind, ih hrest]

/-! ### What is made, and what fails -/

/-- The failure of a run, if it fails. -/
def failure? (run : Run α) : Option Failure :=
  match run.outcome with
  | .ok _ => none
  | .error failure => some failure

theorem failure?_eq_some_iff {run : Run α} {failure : Failure} :
    run.failure? = some failure ↔ run.outcome = .error failure := by
  rw [failure?]
  cases run.outcome <;> simp

theorem failure?_eq_none_iff {run : Run α} :
    run.failure? = none ↔ ∃ value, run.outcome = .ok value := by
  rw [failure?]
  cases run.outcome <;> simp

/-- The runs up to the first one that fails, which is the last one made. -/
def made : List (Run α) → List (Run α)
  | [] => []
  | first :: rest =>
    match first.failure? with
    | none => first :: made rest
    | some _ => [first]

/-- The events are those of the runs made, one run after another. -/
theorem events_inTurn (runs : List (Run α)) :
    (inTurn runs).events = (made runs).flatMap Run.events := by
  induction runs with
  | nil => rfl
  | cons first rest ih =>
    rw [inTurn, made, failure?]
    cases hfirst : first.outcome with
    | ok value => rw [events_bind_ok hfirst, ih, List.flatMap_cons]
    | error failure => rw [events_bind_error hfirst, List.flatMap_singleton]

/-- The first failure there is is the failure of the turn. -/
theorem failure?_inTurn (runs : List (Run α)) :
    (inTurn runs).failure? = runs.findSome? failure? := by
  induction runs with
  | nil => rfl
  | cons first rest ih =>
    rw [List.findSome?_cons, inTurn]
    cases hfirst : first.outcome with
    | ok value =>
      rw [failure?_eq_none_iff.mpr ⟨value, hfirst⟩, ← ih, bind_of_ok hfirst]
      rfl
    | error failure =>
      rw [failure?_eq_some_iff.mpr hfirst, bind_of_error hfirst]
      rfl

/-- A turn fails as one of its runs does. -/
theorem exists_error_of_inTurn {runs : List (Run α)} {failure : Failure}
    (h : (inTurn runs).outcome = .error failure) : ∃ run ∈ runs, run.outcome = .error failure := by
  rw [← failure?_eq_some_iff, failure?_inTurn] at h
  obtain ⟨run, hmem, hfailure⟩ := List.exists_of_findSome?_eq_some h
  exact ⟨run, hmem, failure?_eq_some_iff.mp hfailure⟩

/-- A turn succeeds if every one of its runs does. -/
theorem inTurn_eq_ok_iff {runs : List (Run α)} :
    (inTurn runs).outcome = .ok () ↔ ∀ run ∈ runs, ∃ value, run.outcome = .ok value := by
  rw [← List.findSome?_eq_none_iff.trans (forall₂_congr fun _ _ => failure?_eq_none_iff),
    ← failure?_inTurn, failure?_eq_none_iff]
  exact ⟨fun h => ⟨(), h⟩, fun ⟨_, h⟩ => h⟩

end ResourceFeed.Run
