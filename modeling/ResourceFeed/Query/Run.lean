import ResourceFeed.Failure

/-! # Runs

    Evaluating an expression may read captured values and call functions of
    the host program.  A run is an outcome together with these events in the
    order in which they happened; a run that fails keeps the events before the
    failure.  A run followed by another has the events of both, unless the
    first one fails.
-/

namespace ResourceFeed

/-- Something that an evaluation did in the host program. -/
inductive Event where
  /-- A captured value was read. -/
  | capture (name : String)
  /-- A function was called; its arguments had been evaluated before. -/
  | call (name : String)
  deriving DecidableEq, Repr

/-- Two outcomes in turn succeed when the first one does and the second one does on its result. -/
theorem bind_eq_ok {outcome : Except ε α} {next : α → Except ε β} {value : β} :
    outcome >>= next = .ok value ↔
      ∃ between, outcome = .ok between ∧ next between = .ok value := by
  cases outcome with
  | ok between => simp [bind, Except.bind]
  | error failure => simp [bind, Except.bind]

/-- Two outcomes in turn fail when the first one does, or the second one on its result. -/
theorem bind_eq_error {outcome : Except ε α} {next : α → Except ε β} {failure : ε} :
    outcome >>= next = .error failure ↔
      outcome = .error failure ∨ ∃ between, outcome = .ok between ∧ next between = .error failure := by
  cases outcome with
  | ok between => simp [bind, Except.bind]
  | error failure => simp [bind, Except.bind]

/-- An outcome and the events on the way to it. -/
structure Run (α : Type) where
  events : List Event
  outcome : Except Failure α

namespace Run

/-- An outcome without events. -/
def ofExcept (outcome : Except Failure α) : Run α :=
  ⟨[], outcome⟩

/-- A failure without events. -/
def fail (failure : Failure) : Run α :=
  ⟨[], .error failure⟩

/-- One event. -/
def emit (event : Event) : Run Unit :=
  ⟨[event], .ok ()⟩

/-- A run followed by another that depends on its result. -/
def andThen (run : Run α) (next : α → Run β) : Run β :=
  match run.outcome with
  | .ok value => ⟨run.events ++ (next value).events, (next value).outcome⟩
  | .error failure => ⟨run.events, .error failure⟩

instance : Monad Run where
  pure value := ⟨[], .ok value⟩
  bind := andThen

/-! ## Laws -/

@[simp] theorem pure_events (value : α) : (pure value : Run α).events = [] := rfl

@[simp] theorem pure_outcome (value : α) : (pure value : Run α).outcome = .ok value := rfl

@[simp] theorem ofExcept_outcome (outcome : Except Failure α) :
    (ofExcept outcome).outcome = outcome := rfl

theorem bind_eq_andThen (run : Run α) (next : α → Run β) : (run >>= next) = run.andThen next := rfl

/-- The outcome of two runs in turn depends on their outcomes alone. -/
theorem outcome_bind (run : Run α) (next : α → Run β) :
    (run >>= next).outcome = (run.outcome >>= fun value => (next value).outcome) := by
  rw [bind_eq_andThen, andThen]
  cases run.outcome <;> rfl

/-- Two runs in turn succeed when the first one does and the second one does on its result. -/
theorem outcome_bind_eq_ok {run : Run α} {next : α → Run β} {value : β} :
    (run >>= next).outcome = .ok value ↔
      ∃ between, run.outcome = .ok between ∧ (next between).outcome = .ok value := by
  rw [outcome_bind, bind_eq_ok]

/-- Two runs in turn fail when the first one does, or the second one on its result. -/
theorem outcome_bind_eq_error {run : Run α} {next : α → Run β} {failure : Failure} :
    (run >>= next).outcome = .error failure ↔
      run.outcome = .error failure ∨
        ∃ between, run.outcome = .ok between ∧ (next between).outcome = .error failure := by
  rw [outcome_bind, bind_eq_error]

/-- The events of the first run come first. -/
theorem events_bind_ok {run : Run α} {value : α} (h : run.outcome = .ok value)
    (next : α → Run β) : (run >>= next).events = run.events ++ (next value).events := by
  rw [bind_eq_andThen, andThen, h]

/-- After a failure nothing happens any more. -/
theorem events_bind_error {run : Run α} {failure : Failure} (h : run.outcome = .error failure)
    (next : α → Run β) : (run >>= next).events = run.events := by
  rw [bind_eq_andThen, andThen, h]

end Run

end ResourceFeed
