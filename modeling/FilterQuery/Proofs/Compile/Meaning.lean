import FilterQuery.Proofs.Compile.Offences

/-!
# The meaning of a compiled filter

Fields set against values are the atoms of a filter. Whether a filter holds, given which of its
atoms hold, is said here twice: of the tree, by the rules of the language, and of the term that the
tree compiles to, by the connectives in it. The two agree.

The term also has the shape that one expects: its leaves are those of the tree in the order of the
text, and it has no connective that connects nothing.
-/

namespace FilterQuery

/-- A field set against a value. -/
structure Atom where
  field : String
  comparator : Comparator
  value : Value
deriving DecidableEq

namespace Atom

/-- The atom of a search. A search does not tell whether its text was quoted. -/
def search (field literal : String) : Atom := ⟨field, .equal, .ofContent (.text literal)⟩

/-- The atom of a comparison. Equality with a text that has a wildcard at one end is a search. -/
def ofComparison (comparator : Comparator) (field : String) (value : Value) : Atom :=
  match comparator, value.wildcardForm with
  | .equal, .startsWith literal | .equal, .endsWith literal => search field literal
  | _, _ => ⟨field, comparator, value⟩

/-- What is no search is an atom as it stands. -/
theorem ofComparison_of_plain {comparator : Comparator} {field : String} {value : Value}
    (plain : comparator = .equal → value.wildcardForm = .plain) :
    ofComparison comparator field value = ⟨field, comparator, value⟩ := by
  unfold ofComparison
  split
  · next form => cases form.symm.trans (plain rfl)
  · next form => cases form.symm.trans (plain rfl)
  · rfl

end Atom

section Terms

namespace Predicate

mutual

/-- Whether a predicate holds, given which atoms hold. -/
def eval (truth : Atom → Bool) : Predicate → Bool
  | .and operands => (evalAll truth operands).all id
  | .or operands => (evalAll truth operands).any id
  | .not operand => !operand.eval truth
  | .startsWith field literal | .endsWith field literal => truth (.search field literal)
  | .compare comparator field value => truth ⟨field, comparator, value⟩

/-- Which of several predicates hold. -/
def evalAll (truth : Atom → Bool) : List Predicate → List Bool
  | [] => []
  | predicate :: rest => predicate.eval truth :: evalAll truth rest

end

mutual

/-- The leaves of a predicate from left to right. -/
def conditions : Predicate → List Predicate
  | .and operands | .or operands => conditionsOfAll operands
  | .not operand => operand.conditions
  | .startsWith field literal => [.startsWith field literal]
  | .endsWith field literal => [.endsWith field literal]
  | .compare comparator field value => [.compare comparator field value]

/-- The leaves of several predicates from left to right. -/
def conditionsOfAll : List Predicate → List Predicate
  | [] => []
  | predicate :: rest => predicate.conditions ++ conditionsOfAll rest

end

mutual

/-- Whether every conjunction and disjunction in a predicate has at least two operands. -/
def isProper : Predicate → Bool
  | .and operands | .or operands => decide (2 ≤ operands.length) && areProper operands
  | .not operand => operand.isProper
  | .startsWith _ _ | .endsWith _ _ | .compare _ _ _ => true

/-- Whether every conjunction and disjunction in some predicates has at least two operands. -/
def areProper : List Predicate → Bool
  | [] => true
  | predicate :: rest => predicate.isProper && areProper rest

end

end Predicate

end Terms

section Trees

/-- Whether a leaf holds. -/
def Leaf.holds (truth : Atom → Bool) (leaf : Leaf) : Bool :=
  match leaf.value.resolve with
  | .ok value => truth (.ofComparison leaf.comparator leaf.field value)
  | .error _ => false

mutual

/-- Whether a term holds in a context. -/
def Term.holds (truth : Atom → Bool) (context : Context) : Term → Bool
  | .mk true simple => !simple.holds truth context
  | .mk false simple => simple.holds truth context

/-- Whether a condition holds in a context. A field that is compared with a group is compared with
the bare values in it. What cannot stand where it stands does not hold. -/
def Simple.holds (truth : Atom → Bool) (context : Context) : Simple → Bool
  | .missing => false
  | .bare value =>
    match context with
    | .filter => false
    | .argument field comparator => Leaf.holds truth ⟨field, comparator, value⟩
  | .compare field sign argument =>
    match context, Comparator.ofSign? sign, argument with
    | .filter, some comparator, some value => Leaf.holds truth ⟨field.text, comparator, value⟩
    | _, _, _ => false
  | .compareEach field sign values =>
    match context, Comparator.ofSign? sign with
    | .filter, some comparator => Expression.holds truth (.argument field.text comparator) values
    | _, _ => false
  | .group expression => Expression.holds truth context expression

/-- Whether all sequences of an expression hold. -/
def Expression.holds (truth : Atom → Bool) (context : Context) : List (List (List Term)) → Bool
  | [] => true
  | sequence :: rest => Sequence.holds truth context sequence && Expression.holds truth context rest

/-- Whether all factors of a sequence hold. -/
def Sequence.holds (truth : Atom → Bool) (context : Context) : List (List Term) → Bool
  | [] => true
  | factor :: rest => Factor.holds truth context factor && Sequence.holds truth context rest

/-- Whether one of the terms of a factor holds. -/
def Factor.holds (truth : Atom → Bool) (context : Context) : List Term → Bool
  | [] => false
  | term :: rest => term.holds truth context || Factor.holds truth context rest

end

variable {truth : Atom → Bool} {context : Context}

theorem Expression.holds_eq_all (expression : List (List (List Term))) :
    Expression.holds truth context expression =
      (expression.map (Sequence.holds truth context)).all id := by
  induction expression with
  | nil => rfl
  | cons sequence rest inductionHypothesis => simp [Expression.holds, inductionHypothesis]

theorem Sequence.holds_eq_all (sequence : List (List Term)) :
    Sequence.holds truth context sequence =
      (sequence.map (Factor.holds truth context)).all id := by
  induction sequence with
  | nil => rfl
  | cons factor rest inductionHypothesis => simp [Sequence.holds, inductionHypothesis]

theorem Factor.holds_eq_any (factor : List Term) :
    Factor.holds truth context factor = (factor.map (Term.holds truth context)).any id := by
  induction factor with
  | nil => rfl
  | cons term rest inductionHypothesis => simp [Factor.holds, inductionHypothesis]

end Trees

section Leaves

/-- The leaf predicates that a leaf of a tree may become: a search if it asks for one, and otherwise
the comparison itself. -/
inductive Leaf.IsBuiltAs (leaf : Leaf) : Predicate → Prop where
  | compare {value : Value} : leaf.value.resolve = .ok value →
      (leaf.comparator = .equal → value.wildcardForm = .plain) →
      IsBuiltAs leaf (.compare leaf.comparator leaf.field value)
  | startsWith {value : Value} {literal : String} : leaf.value.resolve = .ok value →
      leaf.comparator = .equal → value.wildcardForm = .startsWith literal →
      IsBuiltAs leaf (.startsWith leaf.field literal)
  | endsWith {value : Value} {literal : String} : leaf.value.resolve = .ok value →
      leaf.comparator = .equal → value.wildcardForm = .endsWith literal →
      IsBuiltAs leaf (.endsWith leaf.field literal)

namespace Leaf.IsBuiltAs

variable {leaf : Leaf} {predicate : Predicate}

/-- The backend of terms makes a leaf predicate of a leaf. -/
theorem of_relate {name : String} {value : Value} {state after : Unit}
    (resolved : leaf.value.resolve = .ok value)
    (built : Build.outcome ((Predicate.backend name none).relate leaf.comparator leaf.field value)
      state = (.ok predicate, after)) : leaf.IsBuiltAs predicate := by
  unfold Backend.relate at built
  split at built
  · next literal isEqual form =>
    cases built
    exact .startsWith resolved isEqual form
  · next literal isEqual form =>
    cases built
    exact .endsWith resolved isEqual form
  · next noPrefix noSuffix =>
    -- No search was asked for, so an equality can only be a plain one.
    cases built
    refine .compare resolved fun isEqual => ?_
    cases form : value.wildcardForm with
    | startsWith literal => exact absurd form (noPrefix literal isEqual)
    | endsWith literal => exact absurd form (noSuffix literal isEqual)
    | plain => rfl

theorem conditions_eq (built : leaf.IsBuiltAs predicate) : predicate.conditions = [predicate] := by
  cases built <;> rfl

theorem isProper (built : leaf.IsBuiltAs predicate) : predicate.isProper = true := by
  cases built <;> rfl

/-- A leaf holds where its predicate does. -/
theorem eval_eq (built : leaf.IsBuiltAs predicate) (truth : Atom → Bool) :
    predicate.eval truth = leaf.holds truth := by
  obtain ⟨field, comparator, member⟩ := leaf
  unfold Leaf.holds
  cases built with
  | compare resolved plain =>
    rw [resolved, Predicate.eval]
    exact congrArg truth (Atom.ofComparison_of_plain plain).symm
  | startsWith resolved isEqual form =>
    obtain rfl : comparator = .equal := isEqual
    simp [resolved, Predicate.eval, Atom.ofComparison, form]
  | endsWith resolved isEqual form =>
    obtain rfl : comparator = .equal := isEqual
    simp [resolved, Predicate.eval, Atom.ofComparison, form]

end Leaf.IsBuiltAs

/-- Predicates that were built in turn have the leaves that they were built from. -/
theorem conditionsOfAll_of_builtInTurn {state after : Unit} {leaves : List Leaf}
    {operands : List Predicate}
    (inTurn : BuiltInTurn (fun _ leaves predicate _ =>
      List.Forall₂ Leaf.IsBuiltAs leaves predicate.conditions) state leaves operands after) :
    List.Forall₂ Leaf.IsBuiltAs leaves (Predicate.conditionsOfAll operands) := by
  induction inTurn with
  | nil => exact .nil
  | cons head _ inductionHypothesis => exact List.rel_append head inductionHypothesis

/-- Terms have the leaves that they were built from. -/
theorem Predicate.backend_keepsLeaves (name : String) :
    Invariant (Predicate.backend name none) fun _ leaves predicate _ =>
      List.Forall₂ Leaf.IsBuiltAs leaves predicate.conditions where
  relation resolved built := by
    have isBuilt := Leaf.IsBuiltAs.of_relate resolved built
    rw [isBuilt.conditions_eq]
    exact .cons isBuilt .nil
  conjunction inTurn built := by
    cases built
    exact conditionsOfAll_of_builtInTurn inTurn
  disjunction inTurn built := by
    cases built
    exact conditionsOfAll_of_builtInTurn inTurn
  negation inner built := by
    cases built
    exact inner

end Leaves

section Values

-- A bare value outside of a group has no leaf, and neither has anything inside of a nested
-- restriction. Both offend, so that without an offence no value is left out.
mutual

theorem Term.leaves_values (context : Context) (term : Term)
    (fit : firstOffence (term.restrictions context.governing?) = none) :
    (term.leaves context).map Leaf.value =
      (term.restrictions context.governing?).filterMap Restriction.value? := by
  match term with
  | .mk _ simple => exact simple.leaves_values context fit

theorem Simple.leaves_values (context : Context) (simple : Simple)
    (fit : firstOffence (simple.restrictions context.governing?) = none) :
    (simple.leaves context).map Leaf.value =
      (simple.restrictions context.governing?).filterMap Restriction.value? := by
  match simple, context with
  | .missing, _ => cases fit
  | .bare value, .filter => cases fit
  | .bare value, .argument field comparator => rfl
  | .compare field sign argument, .argument outer _ => cases fit
  | .compare field sign argument, .filter =>
    simp only [Simple.restrictions, firstOffence_singleton, Restriction.offence?,
      Context.governing?] at fit
    split at fit
    · cases fit
    · cases fit
    · next comparator value known =>
      simp [Simple.leaves, known, Simple.restrictions, Restriction.value?]
  | .compareEach field sign values, .argument outer _ => cases fit
  | .compareEach field sign values, .filter =>
    simp only [Simple.restrictions, firstOffence_cons, Context.governing?,
      Restriction.offence?] at fit
    split at fit
    · cases fit
    · next comparator known =>
      simp only [Simple.leaves, known, Simple.restrictions]
      exact Expression.leaves_values (.argument field.text comparator) values fit
  | .group expression, context => exact Expression.leaves_values context expression fit

theorem Expression.leaves_values (context : Context) (expression : List (List (List Term)))
    (fit : firstOffence (Expression.restrictions context.governing? expression) = none) :
    (Expression.leaves context expression).map Leaf.value =
      (Expression.restrictions context.governing? expression).filterMap Restriction.value? := by
  match expression with
  | [] => rfl
  | sequence :: rest =>
    simp only [Expression.restrictions, firstOffence_append, Option.or_eq_none_iff] at fit
    simp only [Expression.leaves, Expression.restrictions, List.map_append, List.filterMap_append]
    rw [Sequence.leaves_values context sequence fit.1, Expression.leaves_values context rest fit.2]

theorem Sequence.leaves_values (context : Context) (sequence : List (List Term))
    (fit : firstOffence (Sequence.restrictions context.governing? sequence) = none) :
    (Sequence.leaves context sequence).map Leaf.value =
      (Sequence.restrictions context.governing? sequence).filterMap Restriction.value? := by
  match sequence with
  | [] => rfl
  | factor :: rest =>
    simp only [Sequence.restrictions, firstOffence_append, Option.or_eq_none_iff] at fit
    simp only [Sequence.leaves, Sequence.restrictions, List.map_append, List.filterMap_append]
    rw [Factor.leaves_values context factor fit.1, Sequence.leaves_values context rest fit.2]

theorem Factor.leaves_values (context : Context) (factor : List Term)
    (fit : firstOffence (Factor.restrictions context.governing? factor) = none) :
    (Factor.leaves context factor).map Leaf.value =
      (Factor.restrictions context.governing? factor).filterMap Restriction.value? := by
  match factor with
  | [] => rfl
  | term :: rest =>
    simp only [Factor.restrictions, firstOffence_append, Option.or_eq_none_iff] at fit
    simp only [Factor.leaves, Factor.restrictions, List.map_append, List.filterMap_append]
    rw [term.leaves_values context fit.1, Factor.leaves_values context rest fit.2]

end

end Values

section Meaning

/-- A predicate that connects no fewer than two operands anywhere and holds when it should. -/
structure Predicate.Means (predicate : Predicate) (meaning : (Atom → Bool) → Bool) : Prop where
  proper : predicate.isProper = true
  agrees : ∀ truth, predicate.eval truth = meaning truth

/-- A way to join predicates: how the term is built, and when it holds. -/
structure Predicate.Joins (build : List Predicate → Predicate) (decide : List Bool → Bool) :
    Prop where
  single : ∀ value, decide [value] = value
  proper : ∀ operands, 2 ≤ operands.length → Predicate.areProper operands = true →
    (build operands).isProper = true
  agrees : ∀ truth operands,
    (build operands).eval truth = decide (Predicate.evalAll truth operands)

namespace Predicate

theorem joins_and : Joins .and (·.all id) where
  single value := by simp
  proper operands several each := by simp [isProper, several, each]
  agrees truth operands := by simp [eval]

theorem joins_or : Joins .or (·.any id) where
  single value := by simp
  proper operands several each := by simp [isProper, several, each]
  agrees truth operands := by simp [eval]

section Lists

variable {Item : Type} {items : List Item} {meaning : Item → (Atom → Bool) → Bool}
  {operands : List Predicate}

theorem areProper_of_means
    (each : List.Forall₂ (fun item operand => operand.Means (meaning item)) items operands) :
    areProper operands = true := by
  induction each with
  | nil => rfl
  | cons head _ inductionHypothesis => simp [areProper, head.proper, inductionHypothesis]

theorem evalAll_of_means
    (each : List.Forall₂ (fun item operand => operand.Means (meaning item)) items operands)
    (truth : Atom → Bool) : evalAll truth operands = items.map fun item => meaning item truth := by
  induction each with
  | nil => rfl
  | cons head _ inductionHypothesis => simp [evalAll, head.agrees, inductionHypothesis]

/-- Joined predicates mean what their operands mean together, and a single one means what it
meant. -/
theorem Means.join {build : List Predicate → Predicate}
    {decide : List Bool → Bool} (joins : Joins build decide)
    {combine : List Predicate → Build Unit Refusal Predicate}
    (builds : ∀ operands, combine operands = pure (build operands))
    (each : List.Forall₂ (fun item operand => operand.Means (meaning item)) items operands)
    (nonempty : (!items.isEmpty) = true) {predicate : Predicate} {state after : Unit}
    (joined : Build.outcome (joinPredicates combine operands) state = (.ok predicate, after)) :
    predicate.Means fun truth => decide (items.map fun item => meaning item truth) := by
  match operands with
  | [] =>
    -- Without operands there would be no items.
    cases each
    cases nonempty
  | [single] =>
    obtain ⟨rfl, -⟩ := Build.outcome_pure_eq_ok_iff.mp joined
    cases each with
    | cons head tail =>
      cases tail
      exact ⟨head.proper, fun truth => (head.agrees truth).trans (joins.single _).symm⟩
  | first :: second :: rest =>
    have built := Build.outcome_adapt_eq_ok_iff.mp joined
    rw [builds, Build.outcome_pure_eq_ok_iff] at built
    obtain ⟨rfl, -⟩ := built
    refine ⟨joins.proper _ (by simp) (areProper_of_means each), fun truth => ?_⟩
    rw [joins.agrees, evalAll_of_means each]

end Lists

end Predicate

variable {name : String} {context : Context} {state after : Unit} {predicate : Predicate}

theorem Leaf.means_of_compareMember {leaf : Leaf}
    (compiled : Build.outcome (compareMember (Predicate.backend name none) leaf.field
      leaf.comparator leaf.value) state = (.ok predicate, after)) :
    predicate.Means fun truth => leaf.holds truth := by
  unfold compareMember at compiled
  split at compiled
  · cases compiled
  · next value resolved =>
    have built := Leaf.IsBuiltAs.of_relate resolved (Build.outcome_adapt_eq_ok_iff.mp compiled)
    exact ⟨built.isProper, built.eval_eq⟩

/-- The conjunction of the predicates of sequences means what their expression means. -/
theorem Expression.means_of_join {expression : List (List (List Term))}
    {operands : List Predicate}
    (each : List.Forall₂ (fun sequence operand =>
      operand.Means fun truth => Sequence.holds truth context sequence) expression operands)
    (nonempty : (!expression.isEmpty) = true)
    (joined : Build.outcome (joinPredicates (Predicate.backend name none).conjunction operands)
      state = (.ok predicate, after)) :
    predicate.Means fun truth => Expression.holds truth context expression := by
  simp only [Expression.holds_eq_all]
  exact .join Predicate.joins_and (fun _ => rfl) each nonempty joined

mutual

theorem Term.means (context : Context) (term : Term) (filled : term.isFilled = true)
    {predicate : Predicate} {state after : Unit}
    (compiled : Build.outcome (term.compile (Predicate.backend name none) context) state =
      (.ok predicate, after)) :
    predicate.Means fun truth => term.holds truth context := by
  match term with
  | .mk negated simple =>
    simp only [Term.compile, Build.outcome_bind_eq_ok_iff] at compiled
    obtain ⟨operand, middle, inner, outer⟩ := compiled
    have condition := simple.means context filled inner
    cases negated with
    | true =>
      obtain ⟨rfl, -⟩ := Build.outcome_pure_eq_ok_iff.mp (Build.outcome_adapt_eq_ok_iff.mp outer)
      refine ⟨condition.proper, fun truth => ?_⟩
      simp only [Predicate.eval, Term.holds, condition.agrees]
    | false =>
      obtain ⟨rfl, -⟩ := Build.outcome_pure_eq_ok_iff.mp outer
      exact ⟨condition.proper, fun truth => by rw [condition.agrees, Term.holds]⟩

theorem Simple.means (context : Context) (simple : Simple) (filled : simple.isFilled = true)
    {predicate : Predicate} {state after : Unit}
    (compiled : Build.outcome (simple.compile (Predicate.backend name none) context) state =
      (.ok predicate, after)) :
    predicate.Means fun truth => simple.holds truth context := by
  match simple, context with
  | .missing, _ =>
    simp only [Simple.compile] at compiled
    cases compiled
  | .bare value, .filter =>
    simp only [Simple.compile] at compiled
    cases compiled
  | .bare value, .argument field comparator =>
    simp only [Simple.compile] at compiled
    simp only [Simple.holds]
    exact Leaf.means_of_compareMember compiled
  | .compare field sign argument, .argument outer _ =>
    simp only [Simple.compile] at compiled
    exact absurd compiled Invariant.failNested_ne_ok
  | .compare field sign argument, .filter =>
    simp only [Simple.compile] at compiled
    split at compiled
    · cases compiled
    · cases compiled
    · next comparator value known =>
      simp only [Simple.holds, known]
      exact Leaf.means_of_compareMember compiled
  | .compareEach field sign values, .argument outer _ =>
    simp only [Simple.compile] at compiled
    exact absurd compiled Invariant.failNested_ne_ok
  | .compareEach field sign values, .filter =>
    simp only [Simple.isFilled, Bool.and_eq_true] at filled
    simp only [Simple.compile] at compiled
    split at compiled
    · cases compiled
    · next comparator known =>
      rw [Build.outcome_bind_eq_ok_iff] at compiled
      obtain ⟨parts, middle, each, joined⟩ := compiled
      simp only [Simple.holds, known]
      exact Expression.means_of_join
        (Expression.parts_mean (.argument field.text comparator) values filled.2 each) filled.1
        joined
  | .group expression, context =>
    simp only [Simple.isFilled, Bool.and_eq_true] at filled
    simp only [Simple.compile, Build.outcome_bind_eq_ok_iff] at compiled
    obtain ⟨parts, middle, each, joined⟩ := compiled
    simp only [Simple.holds]
    exact Expression.means_of_join (Expression.parts_mean context expression filled.2 each)
      filled.1 joined

theorem Expression.parts_mean (context : Context) (expression : List (List (List Term)))
    (filled : Expression.areFilled expression = true) {operands : List Predicate}
    {state after : Unit}
    (compiled : Build.outcome (Expression.compileParts (Predicate.backend name none) context
      expression) state = (.ok operands, after)) :
    List.Forall₂ (fun sequence operand =>
      operand.Means fun truth => Sequence.holds truth context sequence) expression operands := by
  match expression with
  | [] =>
    simp only [Expression.compileParts, Build.outcome_pure_eq_ok_iff] at compiled
    obtain ⟨rfl, -⟩ := compiled
    exact .nil
  | sequence :: rest =>
    simp only [Expression.areFilled, Bool.and_eq_true] at filled
    obtain ⟨⟨nonempty, first⟩, others⟩ := filled
    simp only [Expression.compileParts, Build.outcome_bind_eq_ok_iff,
      Build.outcome_pure_eq_ok_iff] at compiled
    obtain ⟨parts, _, each, operand, _, joined, remaining, _, compiledRest, rfl, -⟩ := compiled
    refine .cons ?_ (Expression.parts_mean context rest others compiledRest)
    simp only [Sequence.holds_eq_all]
    exact .join Predicate.joins_and (fun _ => rfl)
      (Sequence.parts_mean context sequence first each) nonempty joined

theorem Sequence.parts_mean (context : Context) (sequence : List (List Term))
    (filled : Sequence.areFilled sequence = true) {operands : List Predicate}
    {state after : Unit}
    (compiled : Build.outcome (Sequence.compileParts (Predicate.backend name none) context
      sequence) state = (.ok operands, after)) :
    List.Forall₂ (fun factor operand =>
      operand.Means fun truth => Factor.holds truth context factor) sequence operands := by
  match sequence with
  | [] =>
    simp only [Sequence.compileParts, Build.outcome_pure_eq_ok_iff] at compiled
    obtain ⟨rfl, -⟩ := compiled
    exact .nil
  | factor :: rest =>
    simp only [Sequence.areFilled, Bool.and_eq_true] at filled
    obtain ⟨⟨nonempty, first⟩, others⟩ := filled
    simp only [Sequence.compileParts, Build.outcome_bind_eq_ok_iff,
      Build.outcome_pure_eq_ok_iff] at compiled
    obtain ⟨parts, _, each, operand, _, joined, remaining, _, compiledRest, rfl, -⟩ := compiled
    refine .cons ?_ (Sequence.parts_mean context rest others compiledRest)
    simp only [Factor.holds_eq_any]
    exact .join Predicate.joins_or (fun _ => rfl)
      (Factor.parts_mean context factor first each) nonempty joined

theorem Factor.parts_mean (context : Context) (factor : List Term)
    (filled : Factor.areFilled factor = true) {operands : List Predicate} {state after : Unit}
    (compiled : Build.outcome (Factor.compileParts (Predicate.backend name none) context factor)
      state = (.ok operands, after)) :
    List.Forall₂ (fun term operand =>
      operand.Means fun truth => Term.holds truth context term) factor operands := by
  match factor with
  | [] =>
    simp only [Factor.compileParts, Build.outcome_pure_eq_ok_iff] at compiled
    obtain ⟨rfl, -⟩ := compiled
    exact .nil
  | term :: rest =>
    simp only [Factor.areFilled, Bool.and_eq_true] at filled
    simp only [Factor.compileParts, Build.outcome_bind_eq_ok_iff,
      Build.outcome_pure_eq_ok_iff] at compiled
    obtain ⟨operand, _, head, remaining, _, compiledRest, rfl, -⟩ := compiled
    exact .cons (term.means context filled.1 head)
      (Factor.parts_mean context rest filled.2 compiledRest)

end

theorem means_of_compileTree {expression : Expression} (filled : expression.isFilled = true)
    (compiled : Build.outcome (compileTree (Predicate.backend name none) expression) state =
      (.ok predicate, after)) :
    predicate.Means fun truth => Expression.holds truth .filter expression := by
  rw [Expression.isFilled, Bool.and_eq_true] at filled
  unfold compileTree at compiled
  split at compiled
  · cases compiled
  · simp only [Expression.compileIn, Build.outcome_bind_eq_ok_iff] at compiled
    obtain ⟨parts, middle, each, joined⟩ := compiled
    exact Expression.means_of_join (Expression.parts_mean .filter expression filled.2 each)
      filled.1 joined

/-- A filter that was read from text and compiles keeps its leaves and its meaning. From left to
right, the leaves of its predicate are the values of the filter in the order of the text, each with
the field and the comparator that govern it. No connective in it has fewer than two operands. It
holds whenever the filter holds, whichever atoms do. -/
theorem compilation_keeps_meaning (name : String) {text : String} {expression : Expression}
    (parsed : parse text = .ok expression)
    (compiled : (Build.outcome (compileTree (Predicate.backend name none) expression) ()).1 =
      .ok predicate) :
    List.Forall₂ Leaf.IsBuiltAs (Expression.leaves .filter expression) predicate.conditions ∧
    (Expression.leaves .filter expression).map Leaf.value = expression.values ∧
    (expression.values.Pairwise fun first second => first.position < second.position) ∧
    predicate.isProper = true ∧
    ∀ truth, predicate.eval truth = Expression.holds truth .filter expression := by
  have filled := isFilled_of_parse parsed
  -- A filter that compiles has no offence, so every value of it has become a leaf.
  have stops := (Predicate.backend_accepts name).stopsAt_compileTree filled
  have noOffence : firstOffence (Expression.restrictions none expression) = none :=
    (stops.exists_ok_iff ()).mp ⟨predicate, compiled⟩
  have outcome : Build.outcome (compileTree (Predicate.backend name none) expression) () =
      (.ok predicate, ()) := Prod.ext compiled rfl
  have means := means_of_compileTree filled outcome
  refine ⟨(Predicate.backend_keepsLeaves name).compileTree outcome,
    Expression.leaves_values .filter expression noOffence, ?_, means.proper, means.agrees⟩
  exact (members_in_order parsed).sublist (values_sublist_members _)

/-- A group with a negated search in it. -/
theorem compilation_keeps_meaning_group :
    ∃ expression, parse "a=(1 OR -\"x*\") b>2" = .ok expression ∧
      (Build.outcome (compileTree (Predicate.backend "terms" none) expression) ()).1 =
        .ok (.and [
          .or [.compare .equal "a" ⟨"1", .integer32 1⟩, .not (.startsWith "a" "x*")],
          .compare .greater "b" ⟨"2", .integer32 2⟩]) ∧
      expression.values.map Member.position = [3, 9, 17] ∧
      ∀ truth, ((truth ⟨"a", .equal, ⟨"1", .integer32 1⟩⟩ || !truth (.search "a" "x*")) &&
          truth ⟨"b", .greater, ⟨"2", .integer32 2⟩⟩) =
        Expression.holds truth .filter expression := by
  have parsed : parse "a=(1 OR -\"x*\") b>2" = .ok [[
      [.mk false (.compareEach ⟨⟨.text, "a", 0⟩, []⟩ "=" [[[
        .mk false (.bare ⟨⟨.integer, "1", 3⟩, []⟩),
        .mk true (.bare ⟨⟨.string, "\"x*\"", 9⟩, []⟩)]]])],
      [.mk false (.compare ⟨⟨.text, "b", 15⟩, []⟩ ">" (some ⟨⟨.integer, "2", 17⟩, []⟩))]]] := rfl
  refine ⟨_, parsed, rfl, rfl, fun truth => ?_⟩
  calc
    _ = Predicate.eval truth (.and [
          .or [.compare .equal "a" ⟨"1", .integer32 1⟩, .not (.startsWith "a" "x*")],
          .compare .greater "b" ⟨"2", .integer32 2⟩]) := by
      simp [Predicate.eval, Predicate.evalAll]
    _ = _ := by
      obtain ⟨-, -, -, -, agrees⟩ := compilation_keeps_meaning "terms" parsed rfl
      exact agrees truth

end Meaning

end FilterQuery
