import FilterQuery.Proofs.Compile.Leaves

/-!
# One tree through two backends

Two backends that compile one tree make corresponding calls in the same order. How their predicates
are related may depend on the leaves that the predicates are built from, and nothing has to be known
of leaves that the tree does not have: `LeafConnectives.compileTree`. `Operations.compileText` is
the case of a relation that holds whatever the leaves are.
-/

namespace FilterQuery.Correspondence

section Leafwise

variable {State₁ State₂ Failure₁ Failure₂ Predicate₁ Predicate₂ : Type}

/-- Predicates that are related one after the other, each pair by its own leaves. -/
inductive RelatedInTurn (related : List Leaf → Predicate₁ → Predicate₂ → Prop) :
    List Leaf → List Predicate₁ → List Predicate₂ → Prop where
  | nil : RelatedInTurn related [] [] []
  | cons {leaves rest first second firsts seconds} :
      related leaves first second → RelatedInTurn related rest firsts seconds →
      RelatedInTurn related (leaves ++ rest) (first :: firsts) (second :: seconds)

/-- The connectives of two backends match on operands that are related by their leaves, and errors
that no backend had a part in match themselves. -/
structure LeafConnectives
    (matching : Correspondence State₁ State₂ (CompileError Failure₁) (CompileError Failure₂))
    (related : List Leaf → Predicate₁ → Predicate₂ → Prop)
    (first : Backend State₁ Failure₁ Predicate₁) (second : Backend State₂ Failure₂ Predicate₂) :
    Prop where
  conjunction : ∀ {leaves operands₁ operands₂}, RelatedInTurn related leaves operands₁ operands₂ →
    matching.Steps (related leaves)
      (ExceptT.adapt CompileError.combination (first.conjunction operands₁))
      (ExceptT.adapt CompileError.combination (second.conjunction operands₂))
  disjunction : ∀ {leaves operands₁ operands₂}, RelatedInTurn related leaves operands₁ operands₂ →
    matching.Steps (related leaves)
      (ExceptT.adapt CompileError.combination (first.disjunction operands₁))
      (ExceptT.adapt CompileError.combination (second.disjunction operands₂))
  negation : ∀ {leaves operand₁ operand₂}, related leaves operand₁ operand₂ →
    matching.Steps (related leaves)
      (ExceptT.adapt CompileError.combination (first.negation operand₁))
      (ExceptT.adapt CompileError.combination (second.negation operand₂))
  error : ∀ error : CompileError Empty, matching.errors error.lift error.lift

/-- Two backends set the field of a leaf against its value in matching steps. -/
def LeafSteps
    (matching : Correspondence State₁ State₂ (CompileError Failure₁) (CompileError Failure₂))
    (related : List Leaf → Predicate₁ → Predicate₂ → Prop)
    (first : Backend State₁ Failure₁ Predicate₁) (second : Backend State₂ Failure₂ Predicate₂)
    (leaf : Leaf) : Prop :=
  matching.Steps (related [leaf]) (compareMember first leaf.field leaf.comparator leaf.value)
    (compareMember second leaf.field leaf.comparator leaf.value)

variable {first : Backend State₁ Failure₁ Predicate₁} {second : Backend State₂ Failure₂ Predicate₂}
  {matching : Correspondence State₁ State₂ (CompileError Failure₁) (CompileError Failure₂)}
  {related : List Leaf → Predicate₁ → Predicate₂ → Prop}

/-- Joining predicates that are related in turn matches; a single predicate is passed on. -/
theorem RelatedInTurn.joinPredicates {combine₁ : List Predicate₁ → Build State₁ Failure₁ Predicate₁}
    {combine₂ : List Predicate₂ → Build State₂ Failure₂ Predicate₂}
    (combine : ∀ {leaves operands₁ operands₂},
      RelatedInTurn related leaves operands₁ operands₂ →
      matching.Steps (related leaves) (ExceptT.adapt CompileError.combination (combine₁ operands₁))
        (ExceptT.adapt CompileError.combination (combine₂ operands₂)))
    {leaves : List Leaf} {operands₁ : List Predicate₁} {operands₂ : List Predicate₂}
    (inTurn : RelatedInTurn related leaves operands₁ operands₂) :
    matching.Steps (related leaves) (FilterQuery.joinPredicates combine₁ operands₁)
      (FilterQuery.joinPredicates combine₂ operands₂) := by
  cases inTurn with
  | nil => exact combine .nil
  | cons head tail =>
    cases tail with
    | nil =>
      rw [List.append_nil]
      exact .pure head
    | cons next rest => exact combine (.cons head (.cons next rest))

namespace LeafConnectives

theorem fail (connectives : matching.LeafConnectives related first second)
    (error : CompileError Empty) {results : Predicate₁ → Predicate₂ → Prop} :
    matching.Steps results (FilterQuery.fail error.lift) (FilterQuery.fail error.lift) :=
  .throw (connectives.error error)

theorem failNested (connectives : matching.LeafConnectives related first second)
    (field : String) (simple : Simple) {results : Predicate₁ → Predicate₂ → Prop} :
    matching.Steps results (FilterQuery.failNested field simple)
      (FilterQuery.failNested field simple) := by
  unfold FilterQuery.failNested
  cases simple.render? with
  | some text => exact connectives.fail (.nestedRestriction field text)
  | none => exact connectives.fail (.nestedFragment field)

mutual

theorem term (connectives : matching.LeafConnectives related first second) (context : Context)
    (term : Term)
    (leaves : ∀ leaf ∈ term.leaves context, matching.LeafSteps related first second leaf) :
    matching.Steps (related (term.leaves context)) (term.compile first context)
      (term.compile second context) := by
  match term with
  | .mk negated simple =>
    simp only [Term.compile]
    refine (connectives.simple context simple leaves).bind fun predicate₁ predicate₂ related => ?_
    cases negated with
    | true => exact connectives.negation related
    | false => exact .pure related

theorem simple (connectives : matching.LeafConnectives related first second) (context : Context)
    (simple : Simple)
    (leaves : ∀ leaf ∈ simple.leaves context, matching.LeafSteps related first second leaf) :
    matching.Steps (related (simple.leaves context)) (simple.compile first context)
      (simple.compile second context) := by
  match simple, context with
  | .missing, _ =>
    simp only [Simple.compile]
    exact connectives.fail .missingNode
  | .bare value, .filter =>
    simp only [Simple.compile]
    exact connectives.fail (.noComparator value.text)
  | .bare value, .argument field comparator =>
    simp only [Simple.compile]
    exact leaves ⟨field, comparator, value⟩ (List.mem_singleton_self _)
  | .compare field sign argument, .argument outer _ =>
    simp only [Simple.compile]
    exact connectives.failNested outer _
  | .compare field sign argument, .filter =>
    simp only [Simple.compile]
    cases known : Comparator.ofSign? sign with
    | none => exact connectives.fail (.unsupportedComparator sign)
    | some comparator =>
      cases argument with
      | none => exact connectives.fail .missingArgument
      | some member =>
        simp only [Simple.leaves, known] at leaves ⊢
        exact leaves ⟨field.text, comparator, member⟩ (List.mem_singleton_self _)
  | .compareEach field sign values, .argument outer _ =>
    simp only [Simple.compile]
    exact connectives.failNested outer _
  | .compareEach field sign values, .filter =>
    simp only [Simple.compile]
    cases known : Comparator.ofSign? sign with
    | none => exact connectives.fail (.unsupportedComparator sign)
    | some comparator =>
      simp only [Simple.leaves, known] at leaves ⊢
      refine (connectives.expressionParts _ values leaves).bind fun parts₁ parts₂ inTurn => ?_
      exact inTurn.joinPredicates connectives.conjunction
  | .group expression, context =>
    simp only [Simple.compile]
    refine (connectives.expressionParts context expression leaves).bind
      fun parts₁ parts₂ inTurn => ?_
    exact inTurn.joinPredicates connectives.conjunction

theorem expressionParts (connectives : matching.LeafConnectives related first second)
    (context : Context) (expression : List (List (List Term)))
    (leaves : ∀ leaf ∈ Expression.leaves context expression,
      matching.LeafSteps related first second leaf) :
    matching.Steps (RelatedInTurn related (Expression.leaves context expression))
      (Expression.compileParts first context expression)
      (Expression.compileParts second context expression) := by
  match expression with
  | [] =>
    simp only [Expression.compileParts]
    exact .pure .nil
  | sequence :: rest =>
    obtain ⟨here, there⟩ := List.forall_mem_append.mp leaves
    simp only [Expression.compileParts]
    refine (connectives.sequenceParts context sequence here).bind fun parts₁ parts₂ inTurn => ?_
    refine (inTurn.joinPredicates connectives.conjunction).bind
      fun predicate₁ predicate₂ head => ?_
    refine (connectives.expressionParts context rest there).bind fun others₁ others₂ tail => ?_
    exact .pure (.cons head tail)

theorem sequenceParts (connectives : matching.LeafConnectives related first second)
    (context : Context) (sequence : List (List Term))
    (leaves : ∀ leaf ∈ Sequence.leaves context sequence,
      matching.LeafSteps related first second leaf) :
    matching.Steps (RelatedInTurn related (Sequence.leaves context sequence))
      (Sequence.compileParts first context sequence)
      (Sequence.compileParts second context sequence) := by
  match sequence with
  | [] =>
    simp only [Sequence.compileParts]
    exact .pure .nil
  | factor :: rest =>
    obtain ⟨here, there⟩ := List.forall_mem_append.mp leaves
    simp only [Sequence.compileParts]
    refine (connectives.factorParts context factor here).bind fun parts₁ parts₂ inTurn => ?_
    refine (inTurn.joinPredicates connectives.disjunction).bind
      fun predicate₁ predicate₂ head => ?_
    refine (connectives.sequenceParts context rest there).bind fun others₁ others₂ tail => ?_
    exact .pure (.cons head tail)

theorem factorParts (connectives : matching.LeafConnectives related first second)
    (context : Context) (factor : List Term)
    (leaves : ∀ leaf ∈ Factor.leaves context factor,
      matching.LeafSteps related first second leaf) :
    matching.Steps (RelatedInTurn related (Factor.leaves context factor))
      (Factor.compileParts first context factor) (Factor.compileParts second context factor) := by
  match factor with
  | [] =>
    simp only [Factor.compileParts]
    exact .pure .nil
  | term :: rest =>
    obtain ⟨here, there⟩ := List.forall_mem_append.mp leaves
    simp only [Factor.compileParts]
    refine (connectives.term context term here).bind fun predicate₁ predicate₂ head => ?_
    refine (connectives.factorParts context rest there).bind fun others₁ others₂ tail => ?_
    exact .pure (.cons head tail)

end

/-- Backends with matching connectives compile a tree in lockstep if they build what its leaves ask
for in lockstep. -/
theorem compileTree (connectives : matching.LeafConnectives related first second)
    (expression : Expression)
    (leaves : ∀ leaf ∈ Expression.leaves .filter expression,
      matching.LeafSteps related first second leaf) :
    matching.Steps (related (Expression.leaves .filter expression))
      (FilterQuery.compileTree first expression) (FilterQuery.compileTree second expression) := by
  unfold FilterQuery.compileTree
  split
  · exact connectives.fail .empty
  · refine (connectives.expressionParts .filter expression leaves).bind
      fun parts₁ parts₂ inTurn => ?_
    exact inTurn.joinPredicates connectives.conjunction

end LeafConnectives

end Leafwise

section Uniform

variable {State₁ State₂ Failure₁ Failure₂ Predicate₁ Predicate₂ : Type}

/-- Every operation of two backends matches, and errors that no backend had a part in match
themselves. -/
structure Operations
    (matching : Correspondence State₁ State₂ (CompileError Failure₁) (CompileError Failure₂))
    (predicates : Predicate₁ → Predicate₂ → Prop) (first : Backend State₁ Failure₁ Predicate₁)
    (second : Backend State₂ Failure₂ Predicate₂) : Prop
    extends matching.Connectives predicates first second where
  relation : ∀ comparator field value,
    matching.Steps predicates
      (ExceptT.adapt (CompileError.comparison field comparator value.raw)
        (first.relate comparator field value))
      (ExceptT.adapt (CompileError.comparison field comparator value.raw)
        (second.relate comparator field value))
  error : ∀ error : CompileError Empty, matching.errors error.lift error.lift

variable {first : Backend State₁ Failure₁ Predicate₁} {second : Backend State₂ Failure₂ Predicate₂}
  {matching : Correspondence State₁ State₂ (CompileError Failure₁) (CompileError Failure₂)}
  {predicates : Predicate₁ → Predicate₂ → Prop}

theorem forall₂_of_relatedInTurn {leaves : List Leaf} {operands₁ : List Predicate₁}
    {operands₂ : List Predicate₂}
    (inTurn : RelatedInTurn (fun _ => predicates) leaves operands₁ operands₂) :
    List.Forall₂ predicates operands₁ operands₂ := by
  induction inTurn with
  | nil => exact .nil
  | cons head _ inductionHypothesis => exact .cons head inductionHypothesis

namespace Operations

/-- A relation between predicates is one that does not depend on their leaves. -/
theorem leafConnectives (operations : matching.Operations predicates first second) :
    matching.LeafConnectives (fun _ => predicates) first second where
  conjunction inTurn := operations.conjunction (forall₂_of_relatedInTurn inTurn)
  disjunction inTurn := operations.disjunction (forall₂_of_relatedInTurn inTurn)
  negation related := operations.negation related
  error := operations.error

theorem leafSteps (operations : matching.Operations predicates first second) (leaf : Leaf) :
    matching.LeafSteps (fun _ => predicates) first second leaf := by
  unfold LeafSteps compareMember
  cases leaf.value.resolve with
  | error error => exact .throw (operations.error (.literal leaf.field error))
  | ok value => exact operations.relation leaf.comparator leaf.field value

/-- Matching backends compile one tree in lockstep. -/
theorem compileTree (operations : matching.Operations predicates first second)
    (expression : Expression) :
    matching.Steps predicates (FilterQuery.compileTree first expression)
      (FilterQuery.compileTree second expression) :=
  operations.leafConnectives.compileTree expression fun leaf _ => operations.leafSteps leaf

/-- Matching backends compile one text in lockstep. -/
theorem compileText (operations : matching.Operations predicates first second) (text : String) :
    matching.Steps predicates (FilterQuery.compileText first text)
      (FilterQuery.compileText second text) := by
  unfold FilterQuery.compileText
  cases parse text with
  | error error => exact .throw (operations.error (.parse error))
  | ok expression => exact operations.compileTree expression

end Operations

end Uniform

end FilterQuery.Correspondence
