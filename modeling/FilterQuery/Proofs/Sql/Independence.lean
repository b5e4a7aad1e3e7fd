import FilterQuery.Proofs.Compile.Literals
import FilterQuery.Proofs.Sql.Arguments

/-!
# Clauses do not depend on literals

The text of a clause holds columns, operators and names of arguments. Values go into the arguments
alone: two trees that differ in literals have clauses with one text and with arguments of the same
names.
-/

namespace FilterQuery

theorem Comparator.eq_sign_of_ofSign? {sign : String} {comparator : Comparator}
    (known : ofSign? sign = some comparator) : sign = comparator.sign := by
  unfold ofSign? at known
  split at known <;> cases known <;> rfl

theorem Backend.relate_of_ne_equal {State Failure Predicate : Type}
    (backend : Backend State Failure Predicate) {comparator : Comparator}
    (different : comparator ≠ .equal) (field : String) (value : Value) :
    backend.relate comparator field value = backend.compare comparator field value := by
  unfold relate
  split
  · exact absurd rfl different
  · exact absurd rfl different
  · rfl

end FilterQuery

namespace FilterQuery.Sql

/-- Clauses that differ in the values of their arguments only. -/
structure SameText (first second : Clause) : Prop where
  text : first.text = second.text
  names : first.arguments.names = second.arguments.names
  strength : first.strength = second.strength

namespace SameText

/-- Merged arguments have the same names. -/
theorem names_mergeArguments {first second : List Clause}
    (same : List.Forall₂ SameText first second) :
    (Clause.mergeArguments first).names = (Clause.mergeArguments second).names := by
  have sameNames : first.flatMap (·.arguments.names) = second.flatMap (·.arguments.names) := by
    induction same with
    | nil => rfl
    | cons head _ inductionHypothesis =>
      rw [List.flatMap_cons, List.flatMap_cons, head.names, inductionHypothesis]
  rw [Clause.names_mergeArguments, Clause.names_mergeArguments, sameNames]

theorem operandText {outer : Strength} {first second : Clause} (same : SameText first second) :
    first.operandText outer = second.operandText outer := by
  unfold Clause.operandText
  rw [same.text, same.strength]

theorem operandTexts {outer : Strength} {first second : List Clause}
    (same : List.Forall₂ SameText first second) :
    first.map (Clause.operandText outer) = second.map (Clause.operandText outer) := by
  induction same with
  | nil => rfl
  | cons head _ inductionHypothesis =>
    rw [List.map_cons, List.map_cons, head.operandText, inductionHypothesis]

theorem negate {first second : Clause} (same : SameText first second) :
    SameText first.negate second.negate where
  text := by simp only [Clause.negate, same.operandText]
  names := names_mergeArguments (.cons same .nil)
  strength := rfl

end SameText

/-- Two runs of the backend that have bound the same number of arguments. -/
def inStep :
    Correspondence Counter Counter (CompileError NoOperands) (CompileError NoOperands) where
  states first second := first = second
  errors _ _ := True

/-- Clauses that differ in values are joined to clauses that differ in values. -/
theorem join_steps {operator : String} {strength : Strength} {first second : List Clause}
    (same : List.Forall₂ SameText first second) :
    inStep.Steps SameText
      (ExceptT.adapt CompileError.combination
        (Build.ofExcept (Clause.join operator strength first)))
      (ExceptT.adapt CompileError.combination
        (Build.ofExcept (Clause.join operator strength second))) := by
  rintro count _ rfl
  simp only [Build.outcome_adapt, Build.outcome_ofExcept]
  cases same with
  | nil => exact .error trivial rfl
  | cons head tail =>
    refine .ok ?_ rfl
    refine ⟨?_, ?_, rfl⟩
    · exact congrArg (" " ++ operator ++ " ").intercalate (SameText.operandTexts (.cons head tail))
    · exact SameText.names_mergeArguments (.cons head tail)

/-- A column is set against the next argument in the same way whatever its value. -/
theorem relateColumn_steps (options : Options) (field : String) (value₁ value₂ : Datum)
    (strength : Strength) (text : (column name : String) → String)
    {wrap₁ wrap₂ : NoOperands → CompileError NoOperands} :
    inStep.Steps SameText
      (ExceptT.adapt wrap₁ (relateColumn options field value₁ strength text))
      (ExceptT.adapt wrap₂ (relateColumn options field value₂ strength text)) := by
  rintro count _ rfl
  exact .ok ⟨rfl, rfl, rfl⟩ rfl

/-- Values that call for the same operation are set against a column in the same way. -/
theorem relate_steps (options : Options) (field : String) {comparator : Comparator}
    {value₁ value₂ : Value}
    (alike : comparator = .equal →
      value₁.wildcardForm.dispatch = value₂.wildcardForm.dispatch)
    {wrap₁ wrap₂ : NoOperands → CompileError NoOperands} :
    inStep.Steps SameText
      (ExceptT.adapt wrap₁ ((backend options).relate comparator field value₁))
      (ExceptT.adapt wrap₂ ((backend options).relate comparator field value₂)) := by
  by_cases equality : comparator = .equal
  · have sameDispatch := alike equality
    subst equality
    unfold Backend.relate
    cases form₁ : value₁.wildcardForm with
    | startsWith literal₁ =>
      cases form₂ : value₂.wildcardForm with
      | startsWith literal₂ => exact relateColumn_steps options field _ _ .like likeText
      | endsWith literal₂ | plain => simp [form₁, form₂, WildcardForm.dispatch] at sameDispatch
    | endsWith literal₁ =>
      cases form₂ : value₂.wildcardForm with
      | endsWith literal₂ => exact relateColumn_steps options field _ _ .like likeText
      | startsWith literal₂ | plain => simp [form₁, form₂, WildcardForm.dispatch] at sameDispatch
    | plain =>
      cases form₂ : value₂.wildcardForm with
      | plain => exact relateColumn_steps options field _ _ .comparison (comparisonText .equal)
      | startsWith literal₂ | endsWith literal₂ =>
        simp [form₁, form₂, WildcardForm.dispatch] at sameDispatch
  · rw [Backend.relate_of_ne_equal _ equality, Backend.relate_of_ne_equal _ equality]
    exact relateColumn_steps options field _ _ .comparison (comparisonText comparator)

/-- The backend of clauses keeps literals apart from the text. -/
theorem backend_literalsApart (options : Options) :
    inStep.LiteralsApart SameText (backend options) (backend options) where
  conjunction same := join_steps same
  disjunction same := join_steps same
  negation := by
    rintro operand₁ operand₂ same count _ rfl
    exact .ok same.negate rfl
  member := by
    rintro sign comparator field member₁ member₂ known ⟨value₁, value₂, resolved₁, resolved₂, alike⟩
    unfold compareMember
    rw [resolved₁, resolved₂]
    refine relate_steps options field fun equality => alike ?_
    rw [← equality]
    exact Comparator.eq_sign_of_ofSign? known
  errors _ _ := trivial

/-- Clauses can be built wherever there is an operand. -/
theorem backend_accepts (options : Options) : (backend options).Accepts where
  conjunction operands nonempty count := by
    simp [backend, Clause.join, nonempty]
  disjunction operands nonempty count := by
    simp [backend, Clause.join, nonempty]
  negation operand count := ⟨operand.negate, count, rfl, trivial⟩
  relation comparator field value count := by
    unfold Backend.relate
    split
    · exact ⟨_, _, rfl, trivial⟩
    · exact ⟨_, _, rfl, trivial⟩
    · exact ⟨_, _, rfl, trivial⟩

/-- The text of a clause and the names of its arguments do not depend on literals. Two trees that
differ in literals which call for the same operations compile to clauses with one text, with
arguments of the same names and with the same number of bound arguments, unless the trees lack
something; then neither has a clause. -/
theorem text_independent_of_literals (options : Options) (count : Nat)
    {first second : Expression} (alike : Expression.Alike none first second) :
    (∃ clause₁ clause₂ after,
      Build.outcome (compileTree (backend options) first) count = (.ok clause₁, after) ∧
      Build.outcome (compileTree (backend options) second) count = (.ok clause₂, after) ∧
      clause₁.text = clause₂.text ∧
      clause₁.arguments.map Prod.fst = clause₂.arguments.map Prod.fst) ∨
    (first.isWhole = false ∧ ∃ error₁ error₂ after,
      Build.outcome (compileTree (backend options) first) count = (.error error₁, after) ∧
      Build.outcome (compileTree (backend options) second) count = (.error error₂, after)) := by
  have outcomes := (backend_literalsApart options).compileTree alike count count rfl
  have returns : first.isWhole = true → ∃ clause after,
      Build.outcome (compileTree (backend options) first) count = (.ok clause, after) := by
    intro whole
    obtain ⟨clause, after, compiled, -⟩ :=
      (backend_accepts options).compileTree whole (alike.resolve .filter) count
    exact ⟨clause, after, compiled⟩
  generalize Build.outcome (compileTree (backend options) first) count = outcome₁
    at outcomes returns ⊢
  generalize Build.outcome (compileTree (backend options) second) count = outcome₂ at outcomes ⊢
  cases outcomes with
  | ok same states =>
    obtain rfl := states
    exact .inl ⟨_, _, _, rfl, rfl, same.text, same.names⟩
  | error _ states =>
    obtain rfl := states
    refine .inr ⟨?_, _, _, _, rfl, rfl⟩
    rw [Bool.eq_false_iff]
    intro whole
    obtain ⟨clause, after, compiled⟩ := returns whole
    cases compiled
  | failedAlone allowed => exact allowed.elim

/-- A value that looks like a condition leaves the text of the clause alone. -/
theorem text_independent_of_literals_quoted :
    ∃ clause₁ clause₂ after,
      Build.outcome (compileTree (backend {})
        [[[.mk false (.compare ⟨⟨.text, "a", 0⟩, []⟩ "=" (some ⟨⟨.string, "\"x*\"", 2⟩, []⟩)),
          .mk true (.compareEach ⟨⟨.text, "b", 11⟩, []⟩ ":"
            [[[.mk false (.bare ⟨⟨.boolean, "true", 14⟩, []⟩)]]])]]]) 4 =
        (.ok clause₁, after) ∧
      Build.outcome (compileTree (backend {})
        [[[.mk false (.compare ⟨⟨.text, "a", 0⟩, []⟩ "="
            (some ⟨⟨.string, "\"y) OR (z*\"", 2⟩, []⟩)),
          .mk true (.compareEach ⟨⟨.text, "b", 21⟩, []⟩ ":"
            [[[.mk false (.bare ⟨⟨.text, "NULL", 24⟩, []⟩)]]])]]]) 4 =
        (.ok clause₂, after) ∧
      clause₁.text = clause₂.text ∧
      clause₁.arguments.map Prod.fst = clause₂.arguments.map Prod.fst := by
  have search : Member.DispatchAlike "=" ⟨⟨.string, "\"x*\"", 2⟩, []⟩
      ⟨⟨.string, "\"y) OR (z*\"", 2⟩, []⟩ :=
    ⟨_, _, rfl, rfl, fun _ => rfl⟩
  have membership : Member.DispatchAlike ":" ⟨⟨.boolean, "true", 14⟩, []⟩
      ⟨⟨.text, "NULL", 24⟩, []⟩ :=
    ⟨_, _, rfl, rfl, fun equality => absurd equality (by decide)⟩
  have each : Simple.Alike none
      (.compareEach ⟨⟨.text, "b", 11⟩, []⟩ ":" [[[.mk false (.bare ⟨⟨.boolean, "true", 14⟩, []⟩)]]])
      (.compareEach ⟨⟨.text, "b", 21⟩, []⟩ ":" [[[.mk false (.bare ⟨⟨.text, "NULL", 24⟩, []⟩)]]]) :=
    .compareEach rfl (.cons (.cons (.cons (.mk (.value membership)) .nil) .nil) .nil)
  rcases text_independent_of_literals {} 4
      (.cons (.cons (.cons (.mk (.compare rfl search)) (.cons (.mk each) .nil)) .nil) .nil)
    with clauses | ⟨incomplete, -⟩
  · exact clauses
  · cases incomplete

end FilterQuery.Sql
