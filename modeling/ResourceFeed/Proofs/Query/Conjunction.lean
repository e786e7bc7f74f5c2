import ResourceFeed.Query.Evaluate
import ResourceFeed.Query.Predicate

/-! # The two conjunctions

    `and` asks for both of its sides, `andAlso` for the right one only if the
    left one is true.  An expression is *relaxed* by putting `andAlso` in the
    place of some of its `and`s, wherever they are.

    A relaxed expression is evaluated to the value of the expression, if that
    has one: `and` has a value only if both sides have truth values, and then
    it does not matter whether the right one is asked for.  It may have a value
    where the expression has none, and so the two cannot be exchanged the other
    way round.  A server is sent the same word for both, so the text of a
    predicate is that of the relaxed one in any case.

    The main statement is `evaluate_relaxed`.
-/

namespace ResourceFeed

/-! ### Outcomes that keep a value -/

/-- The second outcome has the value of the first one, if that has one. -/
def KeepsValue (first second : Except Failure α) : Prop :=
  ∀ value, first = .ok value → second = .ok value

namespace KeepsValue

theorem refl (outcome : Except Failure α) : KeepsValue outcome outcome :=
  fun _ h => h

/-- What follows keeps its value too. -/
theorem bind {first second : Except Failure α} {next other : α → Except Failure β}
    (h : KeepsValue first second) (hnext : ∀ value, KeepsValue (next value) (other value)) :
    KeepsValue (first >>= next) (second >>= other) := by
  intro value hvalue
  obtain ⟨between, hfirst, hlast⟩ := bind_eq_ok.mp hvalue
  exact bind_eq_ok.mpr ⟨between, h between hfirst, hnext between value hlast⟩

end KeepsValue

theorem Operator.truth_eq_ok_iff {operator : Operator} {value : Value} {truth : Bool} :
    operator.truth value = .ok truth ↔ value = .bool truth := by
  constructor
  · intro h
    cases value with
    | bool value => exact congrArg Value.bool (Except.ok.inj h)
    | null | int | float | text | instant | record => cases h
  · rintro rfl
    rfl

namespace Expr

/-! ### Relaxed expressions -/

mutual

/-- The second expression is the first one with `andAlso` in the place of some `and`s. -/
inductive Relaxed : Expr → Expr → Prop where
  | element : Relaxed .element .element
  | member {target relaxed : Expr} (name : String) (htarget : Relaxed target relaxed) :
      Relaxed (.member target name) (.member relaxed name)
  | constant (value : Value) : Relaxed (.constant value) (.constant value)
  /-- An operator stays. -/
  | binary {left left' right right' : Expr} (operator : Operator) (hleft : Relaxed left left')
      (hright : Relaxed right right') :
      Relaxed (.binary operator left right) (.binary operator left' right')
  /-- An `and` is replaced. -/
  | conjunction {left left' right right' : Expr} (hleft : Relaxed left left')
      (hright : Relaxed right right') :
      Relaxed (.binary .and left right) (.binary .andAlso left' right')
  | call {arguments relaxed : List Expr} (name : String) (function : HostFunction)
      (harguments : RelaxedArguments arguments relaxed) :
      Relaxed (.call name function arguments) (.call name function relaxed)
  | capture (name : String) (value : Value) : Relaxed (.capture name value) (.capture name value)
  | construct {fields relaxed : List (String × Expr)} (hfields : RelaxedFields fields relaxed) :
      Relaxed (.construct fields) (.construct relaxed)

/-- The same for each of some arguments. -/
inductive RelaxedArguments : List Expr → List Expr → Prop where
  | nil : RelaxedArguments [] []
  | cons {first first' : Expr} {rest rest' : List Expr} (hfirst : Relaxed first first')
      (hrest : RelaxedArguments rest rest') : RelaxedArguments (first :: rest) (first' :: rest')

/-- The same for each of some fields. -/
inductive RelaxedFields : List (String × Expr) → List (String × Expr) → Prop where
  | nil : RelaxedFields [] []
  | cons {first first' : Expr} {rest rest' : List (String × Expr)} (name : String)
      (hfirst : Relaxed first first') (hrest : RelaxedFields rest rest') :
      RelaxedFields ((name, first) :: rest) ((name, first') :: rest')

end

/-! ### Values -/

/-- An `andAlso` has the value of an `and` on sides with values. -/
theorem keepsValue_conjunction {element? : Option Value} {left left' right right' : Expr}
    (hleft : KeepsValue (run element? left).outcome (run element? left').outcome)
    (hright : KeepsValue (run element? right).outcome (run element? right').outcome) :
    KeepsValue (run element? (.binary .and left right)).outcome
      (run element? (.binary .andAlso left' right')).outcome := by
  intro value hvalue
  simp only [run, Operator.deciding?, Run.outcome_bind, Run.ofExcept_outcome] at hvalue ⊢
  obtain ⟨a, ha, hvalue⟩ := bind_eq_ok.mp hvalue
  obtain ⟨b, hb, hvalue⟩ := bind_eq_ok.mp hvalue
  -- both sides have truth values, or `and` would have failed
  obtain ⟨x, hx, hvalue⟩ := bind_eq_ok.mp hvalue
  obtain ⟨y, hy, hvalue⟩ := bind_eq_ok.mp hvalue
  cases Operator.truth_eq_ok_iff.mp hx
  cases Operator.truth_eq_ok_iff.mp hy
  cases hvalue
  rw [hleft _ ha]
  cases x with
  | false => rfl
  | true =>
    show (run element? right' >>= _).outcome = _
    rw [Run.outcome_bind, hright _ hb]
    rfl

/-- An operator keeps the value if its sides do. -/
theorem keepsValue_binary {element? : Option Value} {left left' right right' : Expr}
    (operator : Operator)
    (hleft : KeepsValue (run element? left).outcome (run element? left').outcome)
    (hright : KeepsValue (run element? right).outcome (run element? right').outcome) :
    KeepsValue (run element? (.binary operator left right)).outcome
      (run element? (.binary operator left' right')).outcome := by
  simp only [run]
  cases operator.deciding? with
  | none =>
    simp only [Run.outcome_bind]
    exact hleft.bind fun a => hright.bind fun b => .refl _
  | some decisive =>
    simp only [Run.outcome_bind, apply_ite Run.outcome]
    refine hleft.bind fun a => (KeepsValue.refl _).bind fun a => ?_
    -- the right side is asked for in both or in neither
    split
    · exact .refl _
    · exact hright.bind fun b => .refl _

mutual

/-- A relaxed expression keeps the value. -/
theorem Relaxed.keepsValue (element? : Option Value) : ∀ {expr relaxed : Expr},
    Relaxed expr relaxed → KeepsValue (run element? expr).outcome (run element? relaxed).outcome
  | _, _, .element => .refl _
  | _, _, .member name htarget => by
    simp only [run, Run.outcome_bind]
    exact (htarget.keepsValue element?).bind fun value => .refl _
  | _, _, .constant _ => .refl _
  | _, _, .binary operator hleft hright =>
    keepsValue_binary operator (hleft.keepsValue element?) (hright.keepsValue element?)
  | _, _, .conjunction hleft hright =>
    keepsValue_conjunction (hleft.keepsValue element?) (hright.keepsValue element?)
  | _, _, .call name function harguments => by
    simp only [run, Run.outcome_bind]
    exact (harguments.keepsValue element?).bind fun values => .refl _
  | _, _, .capture _ _ => .refl _
  | _, _, .construct hfields => by
    simp only [run, Run.outcome_bind]
    exact (hfields.keepsValue element?).bind fun values => .refl _

/-- Relaxed arguments keep their values. -/
theorem RelaxedArguments.keepsValue (element? : Option Value) : ∀ {arguments relaxed : List Expr},
    RelaxedArguments arguments relaxed →
      KeepsValue (runArguments element? arguments).outcome (runArguments element? relaxed).outcome
  | _, _, .nil => .refl _
  | _, _, .cons hfirst hrest => by
    simp only [runArguments, Run.outcome_bind]
    exact (hfirst.keepsValue element?).bind fun value =>
      (hrest.keepsValue element?).bind fun values => .refl _

/-- Relaxed fields keep their values. -/
theorem RelaxedFields.keepsValue (element? : Option Value) :
    ∀ {fields relaxed : List (String × Expr)}, RelaxedFields fields relaxed →
      KeepsValue (runFields element? fields).outcome (runFields element? relaxed).outcome
  | _, _, .nil => .refl _
  | _, _, .cons name hfirst hrest => by
    simp only [runFields, Run.outcome_bind]
    exact (hfirst.keepsValue element?).bind fun value =>
      (hrest.keepsValue element?).bind fun values => .refl _

end

/-! ### Texts -/

/-- A relaxed predicate has the same text, or fails at the same node. -/
theorem Relaxed.predicateText_eq {expr relaxed : Expr} (h : Relaxed expr relaxed) :
    relaxed.predicateText = expr.predicateText := by
  induction expr using predicateText.induct generalizing relaxed with
  | case1 => cases h; rfl
  | case2 name =>
    cases h with
    | member _ htarget => cases htarget; rfl
  | case3 target name hne =>
    cases h with
    | member _ htarget =>
      -- the target is no element, and then it is none when relaxed
      rw [predicateText, predicateText]
      · exact hne
      · rintro rfl
        cases htarget
        exact hne rfl
  | case4 value => cases h; rfl
  | case5 operator left right ihleft ihright =>
    cases h with
    | binary _ hleft hright => rw [predicateText, predicateText, ihleft hleft, ihright hright]
    | conjunction hleft hright =>
      rw [predicateText, predicateText, ihleft hleft, ihright hright]
      rfl
  | case6 name function arguments => cases h; rfl
  | case7 name value => cases h; rfl
  | case8 fields => cases h; rfl

/-! ### Main statement -/

/-- **`andAlso` may take the place of `and`.**  A relaxed expression is
    evaluated to the value of the expression, for every element and for none,
    if the expression has one; and as a predicate it has the same text, or none
    for the same reason. -/
theorem evaluate_relaxed {expr relaxed : Expr} (h : expr.Relaxed relaxed) :
    (∀ element? value, expr.evaluate element? = .ok value →
      relaxed.evaluate element? = .ok value) ∧
    relaxed.predicateText = expr.predicateText :=
  ⟨fun element? value hvalue => h.keepsValue element? value hvalue, h.predicateText_eq⟩

/-- The conjunction of two members, or else one in a record that is built. -/
def openOrLate (outer inner : Operator) : Expr :=
  .binary .or (.binary outer (.field "Open") (.field "Late"))
    (.member (.construct [("Both", .binary inner (.field "Open") (.constant (.bool true)))]) "Both")

/-- Both conjunctions replaced, the one in the record too. -/
theorem evaluate_relaxed_of_open :
    (openOrLate .and .and).Relaxed (openOrLate .andAlso .andAlso) ∧
    (openOrLate .andAlso .andAlso).evaluate
      (some (.record [("Late", .bool false), ("Open", .bool true)])) = .ok (.bool true) ∧
    (openOrLate .andAlso .andAlso).predicateText = .error (.unsupportedMember "Both") := by
  have hfield : ∀ name, (field name).Relaxed (field name) := fun name => .member name .element
  have hrelaxed : (openOrLate .and .and).Relaxed (openOrLate .andAlso .andAlso) :=
    .binary .or (.conjunction (hfield "Open") (hfield "Late"))
      (.member "Both" (.construct (.cons "Both" (.conjunction (hfield "Open") (.constant _)) .nil)))
  exact ⟨hrelaxed, (evaluate_relaxed hrelaxed).1 _ _ rfl, (evaluate_relaxed hrelaxed).2⟩

/-- The other way round a value can be lost. -/
example :
    (Expr.binary .andAlso (.constant (.bool false)) (.constant .null)).evaluate none
      = .ok (.bool false) ∧
    (Expr.binary .and (.constant (.bool false)) (.constant .null)).evaluate none
      = .error (.evaluation (.notBoolean .and .null)) :=
  ⟨rfl, rfl⟩

end Expr

end ResourceFeed
