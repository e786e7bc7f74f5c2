import ResourceFeed.Query.Evaluate

/-! # Host programs

    The functions and the captured values of an expression belong to the
    program that made it, its *host*.  What they answer may depend on what
    was asked before: a function can count its calls, and a captured value can
    have changed since it was read last.

    So evaluation is given here for any monad in which values can be read and
    functions be called.  The running evaluation is its instance for hosts
    without a state.  In a *stateful* host every answer is given in a state
    and leaves the next one, and what was asked is listed with all arguments.
    Which function or value is meant there is told by its name, together with
    the answers that the expression holds for hosts without a state.
-/

namespace ResourceFeed

/-- How an evaluation settles what needs no host, reads values, and calls functions. -/
structure Host (m : Type → Type) where
  settle {α : Type} (outcome : Except Failure α) : m α
  read (name : String) (value : Value) : m Value
  call (name : String) (function : HostFunction) (arguments : List Value) : m Value

/-- The host without a state: values and functions are as the expression holds them. -/
def Run.host : Host Run where
  settle := ofExcept
  read name value := do
    emit (.capture name)
    pure value
  call name function arguments := do
    emit (.call name)
    ofExcept (function arguments)

/-! ## Evaluation in a host -/

namespace Expr

section evaluation
variable {m : Type → Type} [Monad m] (host : Host m) (element? : Option Value)

mutual

/-- Evaluates an expression in a host, for an element or for none. -/
def runIn : Expr → m Value
  | .element =>
    match element? with
    | some value => pure value
    | none => host.settle (.error (.evaluation .unbound))
  | .member target name => do
    let value ← runIn target
    host.settle (value.member name)
  | .constant value => pure value
  | .binary operator left right =>
    match operator.deciding? with
    | some decisive => do
      let a ← runIn left
      let a ← host.settle (operator.truth a)
      if a = decisive then pure (.bool decisive)
      else do
        let b ← runIn right
        let b ← host.settle (operator.truth b)
        pure (.bool b)
    | none => do
      let a ← runIn left
      let b ← runIn right
      host.settle (operator.apply a b)
  | .call name function arguments => do
    let values ← runArgumentsIn arguments
    host.call name function values
  | .capture name value => host.read name value
  | .construct fields => do
    let values ← runFieldsIn fields
    pure (.record (Members.ofList values))

/-- Evaluates arguments from left to right. -/
def runArgumentsIn : List Expr → m (List Value)
  | [] => pure []
  | expr :: rest => do
    let value ← runIn expr
    let values ← runArgumentsIn rest
    pure (value :: values)

/-- Evaluates fields from left to right. -/
def runFieldsIn : List (String × Expr) → m (List (String × Value))
  | [] => pure []
  | (name, expr) :: rest => do
    let value ← runIn expr
    let values ← runFieldsIn rest
    pure ((name, value) :: values)

end

end evaluation

mutual

/-- The running evaluation is the one in the host without a state. -/
theorem runIn_host (element? : Option Value) :
    ∀ expr : Expr, expr.runIn Run.host element? = expr.run element?
  | .element => by
    cases element? <;> rfl
  | .member target name => by
    simp only [runIn, run]
    rw [runIn_host element? target]
    rfl
  | .constant _ => by simp only [runIn, run]
  | .binary operator left right => by
    simp only [runIn, run]
    rw [runIn_host element? left, runIn_host element? right]
    rfl
  | .call name function arguments => by
    simp only [runIn, run]
    rw [runArgumentsIn_host element? arguments]
    rfl
  | .capture name value => by
    simp only [runIn, run]
    rfl
  | .construct fields => by
    simp only [runIn, run]
    rw [runFieldsIn_host element? fields]

/-- Arguments are evaluated alike. -/
theorem runArgumentsIn_host (element? : Option Value) :
    ∀ arguments : List Expr, runArgumentsIn Run.host element? arguments =
      runArguments element? arguments
  | [] => by simp only [runArgumentsIn, runArguments]
  | expr :: rest => by
    simp only [runArgumentsIn, runArguments]
    rw [runIn_host element? expr, runArgumentsIn_host element? rest]

/-- Fields are evaluated alike. -/
theorem runFieldsIn_host (element? : Option Value) :
    ∀ fields : List (String × Expr), runFieldsIn Run.host element? fields =
      runFields element? fields
  | [] => by simp only [runFieldsIn, runFields]
  | (_, expr) :: rest => by
    simp only [runFieldsIn, runFields]
    rw [runIn_host element? expr, runFieldsIn_host element? rest]

end

end Expr

/-! ## Stateful hosts -/

/-- Something that was asked of a host. -/
inductive Access where
  /-- A captured value was read. -/
  | read (name : String) (value : Value)
  /-- A function was called, with these arguments. -/
  | call (name : String) (function : HostFunction) (arguments : List Value)

/-- What was done in a stateful host: the accesses in their order, the outcome, and the state that
    is left. -/
structure Performance (State α : Type) where
  accesses : List Access
  outcome : Except Failure α
  state : State

/-- Something to be done in a stateful host. -/
def Hosted (State α : Type) : Type :=
  State → Performance State α

namespace Hosted

/-- Something done before another thing, which starts in the state that is left, unless the first
    one fails. -/
def andThen {State α β : Type} (first : Hosted State α) (next : α → Hosted State β) :
    Hosted State β := fun state =>
  let done := first state
  match done.outcome with
  | .ok value =>
    let later := next value done.state
    ⟨done.accesses ++ later.accesses, later.outcome, later.state⟩
  | .error failure => ⟨done.accesses, .error failure, done.state⟩

instance (State : Type) : Monad (Hosted State) where
  pure value := fun state => ⟨[], .ok value, state⟩
  bind := andThen

end Hosted

/-- A host program with a state: what its values and functions answer in a state, and the state
    they leave. -/
structure HostProgram (State : Type) where
  read (name : String) (value : Value) (state : State) : Value × State
  call (name : String) (function : HostFunction) (arguments : List Value) (state : State) :
    Except Failure Value × State

/-- The host that a program is. -/
def HostProgram.host {State : Type} (program : HostProgram State) : Host (Hosted State) where
  settle outcome := fun state => ⟨[], outcome, state⟩
  read name value := fun state =>
    let answer := program.read name value state
    ⟨[.read name value], .ok answer.1, answer.2⟩
  call name function arguments := fun state =>
    let answer := program.call name function arguments state
    ⟨[.call name function arguments], answer.1, answer.2⟩

end ResourceFeed
