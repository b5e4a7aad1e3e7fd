import FilterQuery.Proofs.Compile.Simulation

/-!
# What a compiled filter is about

The leaves of a filter are its fields, each set against one value, from left to right. A compiled
predicate is put together from the relations of the leaves by connectives.

`Invariant` collects what has to be known of a backend's operations; `Invariant.compileTree` then
gives what holds of every compilation that succeeds.
-/

namespace FilterQuery

/-- A field set against one value. -/
structure Leaf where
  field : String
  comparator : Comparator
  value : Member

mutual

/-- The leaves of a term in a context. -/
def Term.leaves (context : Context) : Term → List Leaf
  | .mk _ simple => simple.leaves context

/-- The leaves of a condition in a context. A bare value belongs to the field that its group is
compared with. What cannot be compiled has no leaves. -/
def Simple.leaves (context : Context) : Simple → List Leaf
  | .missing => []
  | .bare value =>
    match context with
    | .filter => []
    | .argument field comparator => [⟨field, comparator, value⟩]
  | .compare field sign argument =>
    match context, Comparator.ofSign? sign, argument with
    | .filter, some comparator, some value => [⟨field.text, comparator, value⟩]
    | _, _, _ => []
  | .compareEach field sign values =>
    match context, Comparator.ofSign? sign with
    | .filter, some comparator => Expression.leaves (.argument field.text comparator) values
    | _, _ => []
  | .group expression => Expression.leaves context expression

/-- The leaves of an expression in a context. -/
def Expression.leaves (context : Context) : List (List (List Term)) → List Leaf
  | [] => []
  | sequence :: rest => Sequence.leaves context sequence ++ Expression.leaves context rest

/-- The leaves of a sequence in a context. -/
def Sequence.leaves (context : Context) : List (List Term) → List Leaf
  | [] => []
  | factor :: rest => Factor.leaves context factor ++ Sequence.leaves context rest

/-- The leaves of a factor in a context. -/
def Factor.leaves (context : Context) : List Term → List Leaf
  | [] => []
  | term :: rest => term.leaves context ++ Factor.leaves context rest

end

section

variable {State Failure Predicate : Type}

/-- Predicates that were built one after the other, each from its own leaves. -/
inductive BuiltInTurn (built : State → List Leaf → Predicate → State → Prop) :
    State → List Leaf → List Predicate → State → Prop where
  | nil {state} : BuiltInTurn built state [] [] state
  | cons {state middle after leaves rest predicate predicates} :
      built state leaves predicate middle → BuiltInTurn built middle rest predicates after →
      BuiltInTurn built state (leaves ++ rest) (predicate :: predicates) after

/-- What every operation of a backend guarantees about the predicate that it builds, the leaves
which that predicate is about and the states before and after. -/
structure Invariant (backend : Backend State Failure Predicate)
    (built : State → List Leaf → Predicate → State → Prop) : Prop where
  relation : ∀ {leaf : Leaf} {value state predicate after}, leaf.value.resolve = .ok value →
    Build.outcome (backend.relate leaf.comparator leaf.field value) state =
      (.ok predicate, after) → built state [leaf] predicate after
  conjunction : ∀ {state leaves operands middle predicate after},
    BuiltInTurn built state leaves operands middle →
    Build.outcome (backend.conjunction operands) middle = (.ok predicate, after) →
    built state leaves predicate after
  disjunction : ∀ {state leaves operands middle predicate after},
    BuiltInTurn built state leaves operands middle →
    Build.outcome (backend.disjunction operands) middle = (.ok predicate, after) →
    built state leaves predicate after
  negation : ∀ {state leaves operand middle predicate after}, built state leaves operand middle →
    Build.outcome (backend.negation operand) middle = (.ok predicate, after) →
    built state leaves predicate after

namespace Invariant

variable {backend : Backend State Failure Predicate}
  {built : State → List Leaf → Predicate → State → Prop}

/-- Joined predicates are about all their leaves; a single one is passed on. -/
theorem joinPredicates
    {combine : List Predicate → Build State Failure Predicate}
    (combined : ∀ {state leaves operands middle predicate after},
      BuiltInTurn built state leaves operands middle →
      Build.outcome (combine operands) middle = (.ok predicate, after) →
      built state leaves predicate after)
    {state middle after : State} {leaves : List Leaf} {operands : List Predicate}
    {predicate : Predicate} (inTurn : BuiltInTurn built state leaves operands middle)
    (joined : Build.outcome (FilterQuery.joinPredicates combine operands) middle =
      (.ok predicate, after)) :
    built state leaves predicate after := by
  match operands with
  | [] => exact combined inTurn (Build.outcome_adapt_eq_ok_iff.mp joined)
  | [single] =>
    obtain ⟨rfl, rfl⟩ := Build.outcome_pure_eq_ok_iff.mp joined
    cases inTurn with
    | cons head tail =>
      cases tail
      rwa [List.append_nil]
  | first :: second :: rest => exact combined inTurn (Build.outcome_adapt_eq_ok_iff.mp joined)

/-- A restriction inside a group that a field is compared with never compiles. -/
theorem failNested_ne_ok {field : String} {simple : Simple} {state after : State}
    {predicate : Predicate} :
    Build.outcome (failNested field simple : Build State (CompileError Failure) Predicate) state ≠
      (.ok predicate, after) := by
  unfold failNested
  intro compiled
  split at compiled
  · cases compiled
  · cases compiled

theorem compareMember (invariant : Invariant backend built) (leaf : Leaf) {state after : State}
    {predicate : Predicate}
    (compiled : Build.outcome
      (FilterQuery.compareMember backend leaf.field leaf.comparator leaf.value) state =
        (.ok predicate, after)) :
    built state [leaf] predicate after := by
  unfold FilterQuery.compareMember at compiled
  split at compiled
  · cases compiled
  · next value resolved =>
    exact invariant.relation resolved (Build.outcome_adapt_eq_ok_iff.mp compiled)

mutual

theorem term (invariant : Invariant backend built) (context : Context) (term : Term)
    {state after : State} {predicate : Predicate}
    (compiled : Build.outcome (term.compile backend context) state = (.ok predicate, after)) :
    built state (term.leaves context) predicate after := by
  match term with
  | .mk negated simple =>
    simp only [Term.compile, Build.outcome_bind_eq_ok_iff] at compiled
    obtain ⟨operand, middle, inner, outer⟩ := compiled
    have condition := invariant.simple context simple inner
    cases negated with
    | true => exact invariant.negation condition (Build.outcome_adapt_eq_ok_iff.mp outer)
    | false =>
      obtain ⟨rfl, rfl⟩ := Build.outcome_pure_eq_ok_iff.mp outer
      exact condition

theorem simple (invariant : Invariant backend built) (context : Context) (simple : Simple)
    {state after : State} {predicate : Predicate}
    (compiled : Build.outcome (simple.compile backend context) state = (.ok predicate, after)) :
    built state (simple.leaves context) predicate after := by
  match simple, context with
  | .missing, _ =>
    simp only [Simple.compile] at compiled
    cases compiled
  | .bare value, .filter =>
    simp only [Simple.compile] at compiled
    cases compiled
  | .bare value, .argument field comparator =>
    simp only [Simple.compile] at compiled
    exact invariant.compareMember ⟨field, comparator, value⟩ compiled
  | .compare field sign argument, .argument outer _ =>
    simp only [Simple.compile] at compiled
    exact absurd compiled failNested_ne_ok
  | .compare field sign argument, .filter =>
    simp only [Simple.compile] at compiled
    split at compiled
    · cases compiled
    · cases compiled
    · next comparator value known =>
      simp only [Simple.leaves, known]
      exact invariant.compareMember ⟨field.text, comparator, value⟩ compiled
  | .compareEach field sign values, .argument outer _ =>
    simp only [Simple.compile] at compiled
    exact absurd compiled failNested_ne_ok
  | .compareEach field sign values, .filter =>
    simp only [Simple.compile] at compiled
    split at compiled
    · cases compiled
    · next comparator known =>
      rw [Build.outcome_bind_eq_ok_iff] at compiled
      obtain ⟨parts, middle, each, joined⟩ := compiled
      simp only [Simple.leaves, known]
      exact joinPredicates invariant.conjunction
        (invariant.expressionParts (.argument field.text comparator) values each) joined
  | .group expression, context =>
    simp only [Simple.compile, Build.outcome_bind_eq_ok_iff] at compiled
    obtain ⟨parts, middle, each, joined⟩ := compiled
    exact joinPredicates invariant.conjunction
      (invariant.expressionParts context expression each) joined

theorem expressionParts (invariant : Invariant backend built) (context : Context)
    (expression : List (List (List Term))) {state after : State} {predicates : List Predicate}
    (compiled : Build.outcome (Expression.compileParts backend context expression) state =
      (.ok predicates, after)) :
    BuiltInTurn built state (Expression.leaves context expression) predicates after := by
  match expression with
  | [] =>
    simp only [Expression.compileParts, Build.outcome_pure_eq_ok_iff] at compiled
    obtain ⟨rfl, rfl⟩ := compiled
    exact .nil
  | sequence :: rest =>
    simp only [Expression.compileParts, Build.outcome_bind_eq_ok_iff,
      Build.outcome_pure_eq_ok_iff] at compiled
    obtain ⟨parts, first, each, predicate, second, joined, others, third, remaining, rfl, rfl⟩ :=
      compiled
    refine .cons ?_ (invariant.expressionParts context rest remaining)
    exact joinPredicates invariant.conjunction (invariant.sequenceParts context sequence each)
      joined

theorem sequenceParts (invariant : Invariant backend built) (context : Context)
    (sequence : List (List Term)) {state after : State} {predicates : List Predicate}
    (compiled : Build.outcome (Sequence.compileParts backend context sequence) state =
      (.ok predicates, after)) :
    BuiltInTurn built state (Sequence.leaves context sequence) predicates after := by
  match sequence with
  | [] =>
    simp only [Sequence.compileParts, Build.outcome_pure_eq_ok_iff] at compiled
    obtain ⟨rfl, rfl⟩ := compiled
    exact .nil
  | factor :: rest =>
    simp only [Sequence.compileParts, Build.outcome_bind_eq_ok_iff,
      Build.outcome_pure_eq_ok_iff] at compiled
    obtain ⟨parts, first, each, predicate, second, joined, others, third, remaining, rfl, rfl⟩ :=
      compiled
    refine .cons ?_ (invariant.sequenceParts context rest remaining)
    exact joinPredicates invariant.disjunction (invariant.factorParts context factor each) joined

theorem factorParts (invariant : Invariant backend built) (context : Context)
    (factor : List Term) {state after : State} {predicates : List Predicate}
    (compiled : Build.outcome (Factor.compileParts backend context factor) state =
      (.ok predicates, after)) :
    BuiltInTurn built state (Factor.leaves context factor) predicates after := by
  match factor with
  | [] =>
    simp only [Factor.compileParts, Build.outcome_pure_eq_ok_iff] at compiled
    obtain ⟨rfl, rfl⟩ := compiled
    exact .nil
  | term :: rest =>
    simp only [Factor.compileParts, Build.outcome_bind_eq_ok_iff,
      Build.outcome_pure_eq_ok_iff] at compiled
    obtain ⟨predicate, first, head, others, second, remaining, rfl, rfl⟩ := compiled
    exact .cons (invariant.term context term head) (invariant.factorParts context rest remaining)

end

/-- What the operations guarantee holds of every filter tree that compiles. -/
theorem compileTree (invariant : Invariant backend built) {expression : Expression}
    {state after : State} {predicate : Predicate}
    (compiled : Build.outcome (FilterQuery.compileTree backend expression) state =
      (.ok predicate, after)) :
    built state (Expression.leaves .filter expression) predicate after := by
  unfold FilterQuery.compileTree at compiled
  split at compiled
  · cases compiled
  · simp only [Expression.compileIn, Build.outcome_bind_eq_ok_iff] at compiled
    obtain ⟨parts, middle, each, joined⟩ := compiled
    exact joinPredicates invariant.conjunction
      (invariant.expressionParts .filter expression each) joined

/-- What the operations guarantee holds of every filter text that compiles. -/
theorem compileText (invariant : Invariant backend built) {text : String} {state after : State}
    {predicate : Predicate}
    (compiled : Build.outcome (FilterQuery.compileText backend text) state =
      (.ok predicate, after)) :
    ∃ expression, parse text = .ok expression ∧
      built state (Expression.leaves .filter expression) predicate after := by
  unfold FilterQuery.compileText at compiled
  split at compiled
  · cases compiled
  · next expression parsed => exact ⟨expression, parsed, invariant.compileTree compiled⟩

end Invariant

end

end FilterQuery
