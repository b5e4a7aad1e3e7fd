import FilterQuery.Compile.Basic
import Mathlib.Data.List.Forall2

/-!
# Compilations in lockstep

Two compilations of trees of one shape perform corresponding calls in the same order. A
`Correspondence` says which states and which errors match; `Correspondence.Steps` says that two
steps, started in matching states, end in matching states, both with related results or both with
matching errors. Where the correspondence allows it, the second step may also fail alone.

The congruence lemmas carry that relation through every node of a tree, whatever the two backends
are.
-/

namespace FilterQuery

section Outcomes

variable {State Failure Result Next : Type}

/-- What a step returns from a state, and the state that it leaves. -/
def Build.outcome (step : Build State Failure Result) (state : State) :
    Except Failure Result × State :=
  step.run.run state

@[simp] theorem Build.outcome_pure (result : Result) (state : State) :
    Build.outcome (pure result : Build State Failure Result) state = (.ok result, state) := rfl

@[simp] theorem Build.outcome_throw (failure : Failure) (state : State) :
    Build.outcome (throw failure : Build State Failure Result) state = (.error failure, state) :=
  rfl

@[simp] theorem Build.outcome_ofExcept (outcome : Except Failure Result) (state : State) :
    Build.outcome (Build.ofExcept outcome) state = (outcome, state) := rfl

/-- A step after another starts from the state that the first one leaves, unless that fails. -/
theorem Build.outcome_bind (step : Build State Failure Result)
    (next : Result → Build State Failure Next) (state : State) :
    Build.outcome (step >>= next) state =
      match step.outcome state with
      | (.ok result, after) => (next result).outcome after
      | (.error failure, after) => (.error failure, after) := by
  simp only [Build.outcome, ExceptT.run_bind, StateT.run_bind]
  rcases StateT.run (ExceptT.run step) state with ⟨failure | result, after⟩ <;> rfl

/-- Renaming failures leaves results and states alone. -/
theorem Build.outcome_adapt {Error : Type} (wrap : Failure → Error)
    (step : Build State Failure Result) (state : State) :
    Build.outcome (ExceptT.adapt wrap step) state =
      ((step.outcome state).1.mapError wrap, (step.outcome state).2) := rfl

theorem Build.outcome_pure_eq_ok_iff {result found : Result} {state after : State} :
    Build.outcome (pure result : Build State Failure Result) state = (.ok found, after) ↔
      result = found ∧ state = after := by
  simp

/-- Two steps succeed together exactly when each of them does. -/
theorem Build.outcome_bind_eq_ok_iff {step : Build State Failure Result}
    {next : Result → Build State Failure Next} {state after : State} {result : Next} :
    Build.outcome (step >>= next) state = (.ok result, after) ↔
      ∃ found middle, Build.outcome step state = (.ok found, middle) ∧
        Build.outcome (next found) middle = (.ok result, after) := by
  rw [Build.outcome_bind]
  rcases Build.outcome step state with ⟨failure | found, middle⟩
  · simp
  · simp

theorem Build.outcome_adapt_eq_ok_iff {Error : Type} {wrap : Failure → Error}
    {step : Build State Failure Result} {state after : State} {result : Result} :
    Build.outcome (ExceptT.adapt wrap step) state = (.ok result, after) ↔
      Build.outcome step state = (.ok result, after) := by
  rw [Build.outcome_adapt]
  rcases Build.outcome step state with ⟨failure | found, middle⟩
  · simp [Except.mapError]
  · simp [Except.mapError]

end Outcomes

/-- An error that no backend had a part in, as an error of a compilation through any backend. -/
def CompileError.lift {Failure : Type} : CompileError Empty → CompileError Failure
  | .parse error => .parse error
  | .empty => .empty
  | .missingNode => .missingNode
  | .missingArgument => .missingArgument
  | .unsupportedComparator sign => .unsupportedComparator sign
  | .noComparator field => .noComparator field
  | .nestedRestriction field restriction => .nestedRestriction field restriction
  | .nestedFragment field => .nestedFragment field
  | .literal field error => .literal field error
  | .comparison _ _ _ failure => nomatch failure
  | .combination failure => nomatch failure

/-- Which states and which errors of two runs match, and whether the second run may fail where the
first does not. -/
structure Correspondence (State₁ State₂ Error₁ Error₂ : Type) where
  states : State₁ → State₂ → Prop
  errors : Error₁ → Error₂ → Prop
  secondMayFail : Prop := False

namespace Correspondence

section Steps

variable {State₁ State₂ Error₁ Error₂ Result₁ Result₂ Next₁ Next₂ : Type}

/-- Outcomes match when both are results or both are errors, in matching states, or when the second
is an error that it may be alone. -/
inductive Outcomes (matching : Correspondence State₁ State₂ Error₁ Error₂)
    (results : Result₁ → Result₂ → Prop) :
    Except Error₁ Result₁ × State₁ → Except Error₂ Result₂ × State₂ → Prop where
  | ok {first second state₁ state₂} (related : results first second)
      (states : matching.states state₁ state₂) :
      Outcomes matching results (.ok first, state₁) (.ok second, state₂)
  | error {first second state₁ state₂} (related : matching.errors first second)
      (states : matching.states state₁ state₂) :
      Outcomes matching results (.error first, state₁) (.error second, state₂)
  | failedAlone {outcome second state₂} (allowed : matching.secondMayFail) :
      Outcomes matching results outcome (.error second, state₂)

/-- Two steps match when matching states lead to matching outcomes. -/
def Steps (matching : Correspondence State₁ State₂ Error₁ Error₂)
    (results : Result₁ → Result₂ → Prop)
    (first : Build State₁ Error₁ Result₁) (second : Build State₂ Error₂ Result₂) : Prop :=
  ∀ state₁ state₂, matching.states state₁ state₂ →
    matching.Outcomes results (first.outcome state₁) (second.outcome state₂)

variable {matching : Correspondence State₁ State₂ Error₁ Error₂}
  {results : Result₁ → Result₂ → Prop} {nextResults : Next₁ → Next₂ → Prop}

theorem Steps.pure {first : Result₁} {second : Result₂} (related : results first second) :
    matching.Steps results (Pure.pure first) (Pure.pure second) :=
  fun _ _ states => .ok related states

theorem Steps.throw {first : Error₁} {second : Error₂} (related : matching.errors first second) :
    matching.Steps results (MonadExcept.throw first) (MonadExcept.throw second) :=
  fun _ _ states => .error related states

/-- Matching steps followed by matching continuations match. -/
theorem Steps.bind {first : Build State₁ Error₁ Result₁} {second : Build State₂ Error₂ Result₂}
    {next₁ : Result₁ → Build State₁ Error₁ Next₁} {next₂ : Result₂ → Build State₂ Error₂ Next₂}
    (steps : matching.Steps results first second)
    (continuations : ∀ result₁ result₂, results result₁ result₂ →
      matching.Steps nextResults (next₁ result₁) (next₂ result₂)) :
    matching.Steps nextResults (first >>= next₁) (second >>= next₂) := by
  intro state₁ state₂ states
  rw [Build.outcome_bind, Build.outcome_bind]
  have outcomes := steps state₁ state₂ states
  generalize first.outcome state₁ = outcome₁ at outcomes ⊢
  generalize second.outcome state₂ = outcome₂ at outcomes ⊢
  cases outcomes with
  | ok related after => exact continuations _ _ related _ _ after
  | error related after => exact .error related after
  | failedAlone allowed => exact .failedAlone allowed

end Steps

section Compilation

variable {State₁ State₂ Failure₁ Failure₂ Predicate₁ Predicate₂ : Type}
  {first : Backend State₁ Failure₁ Predicate₁} {second : Backend State₂ Failure₂ Predicate₂}
  {matching : Correspondence State₁ State₂ (CompileError Failure₁) (CompileError Failure₂)}
  {predicates : Predicate₁ → Predicate₂ → Prop}

/-- The connectives of two backends match on related operands. -/
structure Connectives
    (matching : Correspondence State₁ State₂ (CompileError Failure₁) (CompileError Failure₂))
    (predicates : Predicate₁ → Predicate₂ → Prop) (first : Backend State₁ Failure₁ Predicate₁)
    (second : Backend State₂ Failure₂ Predicate₂) : Prop where
  conjunction : ∀ {operands₁ operands₂}, List.Forall₂ predicates operands₁ operands₂ →
    matching.Steps predicates (ExceptT.adapt CompileError.combination (first.conjunction operands₁))
      (ExceptT.adapt CompileError.combination (second.conjunction operands₂))
  disjunction : ∀ {operands₁ operands₂}, List.Forall₂ predicates operands₁ operands₂ →
    matching.Steps predicates (ExceptT.adapt CompileError.combination (first.disjunction operands₁))
      (ExceptT.adapt CompileError.combination (second.disjunction operands₂))
  negation : ∀ {operand₁ operand₂}, predicates operand₁ operand₂ →
    matching.Steps predicates (ExceptT.adapt CompileError.combination (first.negation operand₁))
      (ExceptT.adapt CompileError.combination (second.negation operand₂))

/-- Joining related predicates matches; a single predicate is passed on by both. -/
theorem joinPredicates_steps
    {combine₁ : List Predicate₁ → Build State₁ Failure₁ Predicate₁}
    {combine₂ : List Predicate₂ → Build State₂ Failure₂ Predicate₂}
    (combine : ∀ {operands₁ operands₂}, List.Forall₂ predicates operands₁ operands₂ →
      matching.Steps predicates (ExceptT.adapt CompileError.combination (combine₁ operands₁))
        (ExceptT.adapt CompileError.combination (combine₂ operands₂)))
    {operands₁ : List Predicate₁} {operands₂ : List Predicate₂}
    (related : List.Forall₂ predicates operands₁ operands₂) :
    matching.Steps predicates (joinPredicates combine₁ operands₁)
      (joinPredicates combine₂ operands₂) := by
  match related with
  | .nil => exact combine .nil
  | .cons head .nil => exact .pure head
  | .cons head (.cons next rest) => exact combine (.cons head (.cons next rest))

variable {context₁ context₂ : Context}

theorem term_steps (connectives : matching.Connectives predicates first second) (negated : Bool)
    {simple₁ simple₂ : Simple}
    (steps : matching.Steps predicates (simple₁.compile first context₁)
      (simple₂.compile second context₂)) :
    matching.Steps predicates ((Term.mk negated simple₁).compile first context₁)
      ((Term.mk negated simple₂).compile second context₂) := by
  simp only [Term.compile]
  refine steps.bind fun predicate₁ predicate₂ related => ?_
  cases negated with
  | true => exact connectives.negation related
  | false => exact .pure related

theorem factor_cons_steps {term₁ term₂ : Term} {rest₁ rest₂ : Factor}
    (head : matching.Steps predicates (term₁.compile first context₁)
      (term₂.compile second context₂))
    (tail : matching.Steps (List.Forall₂ predicates) (Factor.compileParts first context₁ rest₁)
      (Factor.compileParts second context₂ rest₂)) :
    matching.Steps (List.Forall₂ predicates) (Factor.compileParts first context₁ (term₁ :: rest₁))
      (Factor.compileParts second context₂ (term₂ :: rest₂)) := by
  simp only [Factor.compileParts]
  refine head.bind fun predicate₁ predicate₂ related => ?_
  refine tail.bind fun predicates₁ predicates₂ others => ?_
  exact .pure (.cons related others)

theorem sequence_cons_steps (connectives : matching.Connectives predicates first second)
    {factor₁ factor₂ : Factor} {rest₁ rest₂ : Sequence}
    (head : matching.Steps (List.Forall₂ predicates) (Factor.compileParts first context₁ factor₁)
      (Factor.compileParts second context₂ factor₂))
    (tail : matching.Steps (List.Forall₂ predicates) (Sequence.compileParts first context₁ rest₁)
      (Sequence.compileParts second context₂ rest₂)) :
    matching.Steps (List.Forall₂ predicates)
      (Sequence.compileParts first context₁ (factor₁ :: rest₁))
      (Sequence.compileParts second context₂ (factor₂ :: rest₂)) := by
  simp only [Sequence.compileParts]
  refine head.bind fun parts₁ parts₂ parts => ?_
  refine (joinPredicates_steps connectives.disjunction parts).bind
    fun predicate₁ predicate₂ related => ?_
  refine tail.bind fun predicates₁ predicates₂ others => ?_
  exact .pure (.cons related others)

theorem expression_cons_steps (connectives : matching.Connectives predicates first second)
    {sequence₁ sequence₂ : Sequence} {rest₁ rest₂ : Expression}
    (head : matching.Steps (List.Forall₂ predicates)
      (Sequence.compileParts first context₁ sequence₁)
      (Sequence.compileParts second context₂ sequence₂))
    (tail : matching.Steps (List.Forall₂ predicates)
      (Expression.compileParts first context₁ rest₁)
      (Expression.compileParts second context₂ rest₂)) :
    matching.Steps (List.Forall₂ predicates)
      (Expression.compileParts first context₁ (sequence₁ :: rest₁))
      (Expression.compileParts second context₂ (sequence₂ :: rest₂)) := by
  simp only [Expression.compileParts]
  refine head.bind fun parts₁ parts₂ parts => ?_
  refine (joinPredicates_steps connectives.conjunction parts).bind
    fun predicate₁ predicate₂ related => ?_
  refine tail.bind fun predicates₁ predicates₂ others => ?_
  exact .pure (.cons related others)

/-- The predicates of an expression's sequences are joined alike, whether the expression is a group
or the argument of a restriction. -/
theorem expression_steps (connectives : matching.Connectives predicates first second)
    {expression₁ expression₂ : Expression}
    (parts : matching.Steps (List.Forall₂ predicates)
      (Expression.compileParts first context₁ expression₁)
      (Expression.compileParts second context₂ expression₂)) :
    matching.Steps predicates (expression₁.compileIn first context₁)
      (expression₂.compileIn second context₂) :=
  parts.bind fun _ _ related => joinPredicates_steps connectives.conjunction related

end Compilation

end Correspondence

end FilterQuery
