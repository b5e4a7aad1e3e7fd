import FilterQuery.Proofs.Compile.Leaves

/-!
# Filters that compile

A tree is complete when nothing is missing from it and every condition stands where it may stand.
Through a backend that builds a predicate wherever it has an operand to build it from, a complete
tree compiles as soon as every literal has a value.
-/

namespace FilterQuery

mutual

/-- Whether a term lacks nothing. -/
def Term.isComplete (context : Context) : Term → Bool
  | .mk _ simple => simple.isComplete context

/-- Whether a condition lacks nothing and may stand in a context: bare values stand in the groups
that fields are compared with, and restrictions stand outside of them. -/
def Simple.isComplete (context : Context) : Simple → Bool
  | .missing => false
  | .bare _ =>
    match context with
    | .filter => false
    | .argument _ _ => true
  | .compare _ sign argument =>
    match context with
    | .filter => (Comparator.ofSign? sign).isSome && argument.isSome
    | .argument _ _ => false
  | .compareEach field sign values =>
    match context, Comparator.ofSign? sign with
    | .filter, some comparator =>
      !values.isEmpty && Expression.isComplete (.argument field.text comparator) values
    | _, _ => false
  | .group expression => !expression.isEmpty && Expression.isComplete context expression

/-- Whether the sequences of an expression lack nothing. -/
def Expression.isComplete (context : Context) : List (List (List Term)) → Bool
  | [] => true
  | sequence :: rest =>
    !sequence.isEmpty && Sequence.isComplete context sequence && Expression.isComplete context rest

/-- Whether the factors of a sequence lack nothing. -/
def Sequence.isComplete (context : Context) : List (List Term) → Bool
  | [] => true
  | factor :: rest =>
    !factor.isEmpty && Factor.isComplete context factor && Sequence.isComplete context rest

/-- Whether the terms of a factor lack nothing. -/
def Factor.isComplete (context : Context) : List Term → Bool
  | [] => true
  | term :: rest => term.isComplete context && Factor.isComplete context rest

end

/-- The literal of a leaf has a value. -/
def Leaf.Resolves (leaf : Leaf) : Prop := ∃ value, leaf.value.resolve = .ok value

/-- Whether a filter tree lacks nothing. -/
def Expression.isWhole (expression : Expression) : Bool :=
  !expression.isEmpty && Expression.isComplete .filter expression

section Steps

variable {State Failure Result Next : Type}

/-- A step that returns a result from every state, and one of a certain kind. -/
def Build.Returns (kind : Result → Prop) (step : Build State Failure Result) : Prop :=
  ∀ state, ∃ result after, Build.outcome step state = (.ok result, after) ∧ kind result

theorem Build.Returns.pure {kind : Result → Prop} {result : Result} (isKind : kind result) :
    Build.Returns kind (Pure.pure result : Build State Failure Result) :=
  fun state => ⟨result, state, rfl, isKind⟩

theorem Build.Returns.bind {kind : Result → Prop} {nextKind : Next → Prop}
    {step : Build State Failure Result} {next : Result → Build State Failure Next}
    (returns : Build.Returns kind step)
    (continues : ∀ result, kind result → Build.Returns nextKind (next result)) :
    Build.Returns nextKind (step >>= next) := by
  intro state
  obtain ⟨result, middle, first, isKind⟩ := returns state
  obtain ⟨last, after, second, isNextKind⟩ := continues result isKind middle
  exact ⟨last, after, Build.outcome_bind_eq_ok_iff.mpr ⟨result, middle, first, second⟩, isNextKind⟩

theorem Build.Returns.adapt {kind : Result → Prop} {step : Build State Failure Result}
    {Error : Type} {wrap : Failure → Error} (returns : Build.Returns kind step) :
    Build.Returns kind (ExceptT.adapt wrap step : Build State Error Result) := by
  intro state
  obtain ⟨result, after, outcome, isKind⟩ := returns state
  exact ⟨result, after, Build.outcome_adapt_eq_ok_iff.mpr outcome, isKind⟩

/-- A step that returns a result does not fail. -/
theorem Build.Returns.not_error {kind : Result → Prop} {step : Build State Failure Result}
    (returns : Build.Returns kind step) (state : State) {failure : Failure} :
    (Build.outcome step state).1 ≠ .error failure := by
  obtain ⟨result, after, outcome, -⟩ := returns state
  simp [outcome]

end Steps

section Compilation

variable {State Failure Predicate : Type}

/-- A backend that never refuses to build a predicate from at least one operand. -/
structure Backend.Accepts (backend : Backend State Failure Predicate) : Prop where
  conjunction : ∀ operands, operands ≠ [] →
    Build.Returns (fun _ => True) (backend.conjunction operands)
  disjunction : ∀ operands, operands ≠ [] →
    Build.Returns (fun _ => True) (backend.disjunction operands)
  negation : ∀ operand, Build.Returns (fun _ => True) (backend.negation operand)
  relation : ∀ comparator field value,
    Build.Returns (fun _ => True) (backend.relate comparator field value)

namespace Backend.Accepts

variable {backend : Backend State Failure Predicate}

/-- As many predicates as there are items can be joined, if there is an item. -/
theorem joinPredicates {combine : List Predicate → Build State Failure Predicate} {Item : Type}
    (combines : ∀ operands, operands ≠ [] → Build.Returns (fun _ => True) (combine operands))
    {items : List Item} (nonempty : (!items.isEmpty) = true) {operands : List Predicate}
    (sameLength : operands.length = items.length) :
    Build.Returns (fun _ => True) (FilterQuery.joinPredicates combine operands) := by
  match operands with
  | [] =>
    have noItems : items = [] := List.length_eq_zero_iff.mp sameLength.symm
    simp [noItems] at nonempty
  | [single] => exact .pure trivial
  | first :: second :: rest => exact (combines _ (by simp)).adapt

theorem compareMember (accepts : backend.Accepts) {field : String} {comparator : Comparator}
    {member : Member} (resolves : ∃ value, member.resolve = .ok value) :
    Build.Returns (fun _ => True) (FilterQuery.compareMember backend field comparator member) := by
  obtain ⟨value, resolved⟩ := resolves
  unfold FilterQuery.compareMember
  rw [resolved]
  exact (accepts.relation comparator field value).adapt

mutual

theorem term (accepts : backend.Accepts) (context : Context) (term : Term)
    (complete : term.isComplete context = true)
    (resolve : ∀ leaf ∈ term.leaves context, leaf.Resolves) :
    Build.Returns (fun _ => True) (term.compile backend context) := by
  match term with
  | .mk negated simple =>
    simp only [Term.compile]
    refine (accepts.simple context simple complete resolve).bind fun predicate _ => ?_
    cases negated with
    | true => exact (accepts.negation predicate).adapt
    | false => exact .pure trivial

theorem simple (accepts : backend.Accepts) (context : Context) (simple : Simple)
    (complete : simple.isComplete context = true)
    (resolve : ∀ leaf ∈ simple.leaves context, leaf.Resolves) :
    Build.Returns (fun _ => True) (simple.compile backend context) := by
  match simple, context with
  | .missing, _ => cases complete
  | .bare value, .filter => cases complete
  | .bare value, .argument field comparator =>
    simp only [Simple.compile]
    exact accepts.compareMember (resolve ⟨field, comparator, value⟩ (List.mem_singleton_self _))
  | .compare field sign argument, .argument outer _ => cases complete
  | .compare field sign argument, .filter =>
    simp only [Simple.isComplete, Bool.and_eq_true] at complete
    obtain ⟨comparator, known⟩ := Option.isSome_iff_exists.mp complete.1
    obtain ⟨value, rfl⟩ := Option.isSome_iff_exists.mp complete.2
    simp only [Simple.compile, known]
    refine accepts.compareMember (resolve ⟨field.text, comparator, value⟩ ?_)
    simp [Simple.leaves, known]
  | .compareEach field sign values, .argument outer _ => cases complete
  | .compareEach field sign values, .filter =>
    cases known : Comparator.ofSign? sign with
    | none => simp [Simple.isComplete, known] at complete
    | some comparator =>
      simp only [Simple.isComplete, known, Bool.and_eq_true] at complete
      simp only [Simple.leaves, known] at resolve
      simp only [Simple.compile, known]
      refine (accepts.expressionParts _ values complete.2 resolve).bind fun parts sameLength => ?_
      exact joinPredicates accepts.conjunction complete.1 sameLength
  | .group expression, context =>
    simp only [Simple.isComplete, Bool.and_eq_true] at complete
    simp only [Simple.compile]
    refine (accepts.expressionParts context expression complete.2 resolve).bind
      fun parts sameLength => ?_
    exact joinPredicates accepts.conjunction complete.1 sameLength

theorem expressionParts (accepts : backend.Accepts) (context : Context)
    (expression : List (List (List Term)))
    (complete : Expression.isComplete context expression = true)
    (resolve : ∀ leaf ∈ Expression.leaves context expression, leaf.Resolves) :
    Build.Returns (fun parts : List Predicate => parts.length = expression.length)
      (Expression.compileParts backend context expression) := by
  match expression with
  | [] =>
    simp only [Expression.compileParts]
    exact .pure rfl
  | sequence :: rest =>
    simp only [Expression.isComplete, Bool.and_eq_true] at complete
    obtain ⟨⟨nonempty, first⟩, others⟩ := complete
    obtain ⟨here, there⟩ := List.forall_mem_append.mp resolve
    simp only [Expression.compileParts]
    refine (accepts.sequenceParts context sequence first here).bind fun parts sameLength => ?_
    refine (joinPredicates accepts.conjunction nonempty sameLength).bind fun predicate _ => ?_
    refine (accepts.expressionParts context rest others there).bind fun predicates length => ?_
    exact .pure (congrArg (· + 1) length)

theorem sequenceParts (accepts : backend.Accepts) (context : Context)
    (sequence : List (List Term)) (complete : Sequence.isComplete context sequence = true)
    (resolve : ∀ leaf ∈ Sequence.leaves context sequence, leaf.Resolves) :
    Build.Returns (fun parts : List Predicate => parts.length = sequence.length)
      (Sequence.compileParts backend context sequence) := by
  match sequence with
  | [] =>
    simp only [Sequence.compileParts]
    exact .pure rfl
  | factor :: rest =>
    simp only [Sequence.isComplete, Bool.and_eq_true] at complete
    obtain ⟨⟨nonempty, first⟩, others⟩ := complete
    obtain ⟨here, there⟩ := List.forall_mem_append.mp resolve
    simp only [Sequence.compileParts]
    refine (accepts.factorParts context factor first here).bind fun parts sameLength => ?_
    refine (joinPredicates accepts.disjunction nonempty sameLength).bind fun predicate _ => ?_
    refine (accepts.sequenceParts context rest others there).bind fun predicates length => ?_
    exact .pure (congrArg (· + 1) length)

theorem factorParts (accepts : backend.Accepts) (context : Context) (factor : List Term)
    (complete : Factor.isComplete context factor = true)
    (resolve : ∀ leaf ∈ Factor.leaves context factor, leaf.Resolves) :
    Build.Returns (fun parts : List Predicate => parts.length = factor.length)
      (Factor.compileParts backend context factor) := by
  match factor with
  | [] =>
    simp only [Factor.compileParts]
    exact .pure rfl
  | term :: rest =>
    simp only [Factor.isComplete, Bool.and_eq_true] at complete
    obtain ⟨here, there⟩ := List.forall_mem_append.mp resolve
    simp only [Factor.compileParts]
    refine (accepts.term context term complete.1 here).bind fun predicate _ => ?_
    refine (accepts.factorParts context rest complete.2 there).bind fun predicates length => ?_
    exact .pure (congrArg (· + 1) length)

end

/-- A complete tree whose literals have values compiles. -/
theorem compileTree (accepts : backend.Accepts) {expression : Expression}
    (whole : expression.isWhole = true)
    (resolve : ∀ leaf ∈ Expression.leaves .filter expression, leaf.Resolves) :
    Build.Returns (fun _ => True) (FilterQuery.compileTree backend expression) := by
  rw [Expression.isWhole, Bool.and_eq_true] at whole
  obtain ⟨nonempty, complete⟩ := whole
  unfold FilterQuery.compileTree
  rw [if_neg (by simpa using nonempty)]
  refine (accepts.expressionParts .filter expression complete resolve).bind
    fun parts sameLength => ?_
  exact joinPredicates accepts.conjunction nonempty sameLength

end Backend.Accepts

end Compilation

end FilterQuery
