import FilterQuery.Proofs.Compile.Lockstep
import FilterQuery.Proofs.Sql.Precedence

/-!
# Column names show in the text

Backends that name columns differently make one filter into clauses with the same arguments, or
refuse it for the same reason. Every column shows in the text of a clause: a database finds them
there in the order of the filter's leaves. So the two clauses have one text exactly if each field of
the filter has one column in both: `compileText_naming`.
-/

namespace FilterQuery.Sql

section Shown

/-- The column on one side of a comparison, if there is one. -/
def Operand.path? : Operand → Option (List String)
  | .column path | .anyOf path => some path
  | .argument _ => none

/-- The column that a comparison is about. -/
def Atom.path? (atom : Atom) : Option (List String) := atom.left.path? <|> atom.right.path?

theorem path?_comparison (path : List String) (name : String) (comparator : Comparator) :
    (comparison path name comparator).path? = some path := by
  cases comparator <;> rfl

/-- A clause whose text is read as comparisons of the columns of some leaves, in their order. -/
def ShowsColumns (options : Options) (leaves : List Leaf) (clause : Clause) : Prop :=
  ∃ meaning, ReadsText clause.strength clause.text meaning ∧
    meaning.atoms.map Atom.path? = leaves.map fun leaf => some (options.path leaf.field)

/-- Operands that were built one after the other show their columns one after the other. -/
theorem exists_meanings {options : Options} {before after : Counter} {leaves : List Leaf}
    {operands : List Clause}
    (inTurn : BuiltInTurn (fun _ leaves clause _ => ShowsColumns options leaves clause)
      before leaves operands after) :
    ∃ meanings, List.Forall₂ (fun clause meaning => ReadsText clause.strength clause.text meaning)
        operands meanings ∧
      (meanings.flatMap Meaning.atoms).map Atom.path? =
        leaves.map fun leaf => some (options.path leaf.field) := by
  induction inTurn with
  | nil => exact ⟨[], .nil, rfl⟩
  | cons shown _ inductionHypothesis =>
    obtain ⟨meaning, reads, columns⟩ := shown
    obtain ⟨meanings, allRead, others⟩ := inductionHypothesis
    refine ⟨meaning :: meanings, .cons reads allRead, ?_⟩
    rw [List.flatMap_cons, List.map_append, List.map_append, columns, others]

/-- Every clause shows the columns of its leaves. -/
theorem showsColumns_invariant {options : Options}
    (named : isName options.placeholder.toList = true) :
    Invariant (backend options) fun _ leaves clause _ => ShowsColumns options leaves clause where
  relation := by
    intro leaf value before clause after _ built
    unfold Backend.relate at built
    split at built <;> cases built
    · exact ⟨_, readsText_like named leaf.field before, rfl⟩
    · exact ⟨_, readsText_like named leaf.field before, rfl⟩
    · refine ⟨_, readsText_comparison named leaf.field before leaf.comparator, ?_⟩
      simp [Meaning.ofAtom, path?_comparison]
  conjunction := by
    intro before leaves operands middle clause after inTurn built
    obtain ⟨meanings, reads, columns⟩ := exists_meanings inTurn
    have joined := congrArg Prod.fst built
    exact ⟨_, readsText_conjunction reads joined, columns⟩
  disjunction := by
    intro before leaves operands middle clause after inTurn built
    obtain ⟨meanings, reads, columns⟩ := exists_meanings inTurn
    have joined := congrArg Prod.fst built
    exact ⟨_, readsText_disjunction reads joined, columns⟩
  negation := by
    rintro before leaves operand middle clause after ⟨meaning, reads, columns⟩ built
    cases built
    exact ⟨_, readsText_negate reads, columns⟩

/-- A text determines the columns that it shows. -/
theorem paths_eq_of_text_eq {first second : Options} {leaves : List Leaf} {clause₁ clause₂ : Clause}
    (shown₁ : ShowsColumns first leaves clause₁) (shown₂ : ShowsColumns second leaves clause₂)
    (same : clause₁.text = clause₂.text) :
    ∀ leaf ∈ leaves, first.path leaf.field = second.path leaf.field := by
  obtain ⟨meaning₁, reads₁, columns₁⟩ := shown₁
  obtain ⟨meaning₂, reads₂, columns₂⟩ := shown₂
  obtain ⟨formula₁, read₁, isMeaning₁⟩ := reads₁.readCondition?
  obtain ⟨formula₂, read₂, isMeaning₂⟩ := reads₂.readCondition?
  rw [same, read₂] at read₁
  cases read₁
  have paths : (leaves.map fun leaf => some (first.path leaf.field)) =
      leaves.map fun leaf => some (second.path leaf.field) := by
    rw [← columns₁, ← columns₂, ← isMeaning₁, ← isMeaning₂]
  intro leaf member
  exact Option.some.inj (List.map_inj_left.mp paths leaf member)

/-- Zero characters are left out of a quoted part anyway. -/
theorem quotePart_filter (part : String) :
    quotePart (String.ofList (part.toList.filter (· != '\x00'))) = quotePart part := by
  simp [quotePart]

/-- A column is its path, quoted. -/
theorem Options.column_eq_quoted_path (options : Options) (field : String) :
    options.column field = ".".intercalate ((options.path field).map quotePart) := by
  simp [Options.column, quoteColumn, Options.path, Function.comp_def, quotePart_filter]

end Shown

section Alike

/-- Clauses that a filter with some leaves is made into where columns are named differently. -/
structure SameButColumns (first second : Options) (leaves : List Leaf) (clause₁ clause₂ : Clause) :
    Prop where
  arguments : clause₁.arguments = clause₂.arguments
  strength : clause₁.strength = clause₂.strength
  text : (∀ leaf ∈ leaves, first.column leaf.field = second.column leaf.field) →
    clause₁.text = clause₂.text

/-- Two runs that bind the same number of arguments and fail for the same reason. -/
def sideBySide :
    Correspondence Counter Counter (CompileError NoOperands) (CompileError NoOperands) where
  states first second := first = second
  errors first second := first = second

open Correspondence

section

variable {first second : Options} {leaves : List Leaf} {operands₁ operands₂ : List Clause}

/-- Operands that differ in columns have the same arguments, and the same texts where they have the
same columns. -/
theorem SameButColumns.inTurn
    (related : RelatedInTurn (SameButColumns first second) leaves operands₁ operands₂) :
    operands₁.map Clause.arguments = operands₂.map Clause.arguments ∧
      ((∀ leaf ∈ leaves, first.column leaf.field = second.column leaf.field) → ∀ outer,
        operands₁.map (Clause.operandText outer) = operands₂.map (Clause.operandText outer)) := by
  induction related with
  | nil => exact ⟨rfl, fun _ _ => rfl⟩
  | cons head _ inductionHypothesis =>
    obtain ⟨arguments, texts⟩ := inductionHypothesis
    refine ⟨?_, fun same outer => ?_⟩
    · rw [List.map_cons, List.map_cons, head.arguments, arguments]
    · obtain ⟨here, there⟩ := List.forall_mem_append.mp same
      rw [List.map_cons, List.map_cons, texts there outer, Clause.operandText, Clause.operandText,
        head.text here, head.strength]

theorem mergeArguments_congr
    (same : operands₁.map Clause.arguments = operands₂.map Clause.arguments) :
    Clause.mergeArguments operands₁ = Clause.mergeArguments operands₂ := by
  have folded (operands : List Clause) : Clause.mergeArguments operands =
      (operands.map Clause.arguments).foldl Arguments.merge [] := by
    rw [Clause.mergeArguments, List.foldl_map]
  rw [folded, folded, same]

/-- Operands that differ in columns are joined to clauses that differ in columns. -/
theorem SameButColumns.join {operator : String} {strength : Strength}
    (related : RelatedInTurn (SameButColumns first second) leaves operands₁ operands₂) :
    sideBySide.Steps (SameButColumns first second leaves)
      (ExceptT.adapt CompileError.combination
        (Build.ofExcept (Clause.join operator strength operands₁)))
      (ExceptT.adapt CompileError.combination
        (Build.ofExcept (Clause.join operator strength operands₂))) := by
  rintro count _ rfl
  obtain ⟨arguments, texts⟩ := SameButColumns.inTurn related
  simp only [Build.outcome_adapt, Build.outcome_ofExcept]
  cases related with
  | nil => exact .error rfl rfl
  | cons head tail =>
    refine .ok ⟨mergeArguments_congr arguments, rfl, fun same => ?_⟩ rfl
    exact congrArg (" " ++ operator ++ " ").intercalate (texts same strength)

end

/-- The connectives do not look at columns. -/
theorem sameButColumns_connectives (first second : Options) :
    sideBySide.LeafConnectives (SameButColumns first second) (backend first) (backend second) where
  conjunction related := SameButColumns.join related
  disjunction related := SameButColumns.join related
  negation := by
    rintro leaves operand₁ operand₂ related count _ rfl
    refine .ok ⟨?_, rfl, fun same => ?_⟩ rfl
    · exact mergeArguments_congr (by rw [List.map_singleton, List.map_singleton, related.arguments])
    · simp only [Clause.negate, Clause.operandText, related.text same, related.strength]
  error _ := rfl

/-- Both backends set the field of a leaf against the same argument. -/
theorem sameButColumns_leafSteps {first second : Options}
    (placeholder : first.placeholder = second.placeholder) (leaf : Leaf) :
    sideBySide.LeafSteps (SameButColumns first second) (backend first) (backend second) leaf := by
  have relates (value : Datum) (strength : Strength) (text : (column name : String) → String)
      {wrap : NoOperands → CompileError NoOperands} :
      sideBySide.Steps (SameButColumns first second [leaf])
        (ExceptT.adapt wrap (relateColumn first leaf.field value strength text))
        (ExceptT.adapt wrap (relateColumn second leaf.field value strength text)) := by
    rintro count _ rfl
    refine .ok ⟨?_, rfl, fun same => ?_⟩ rfl
    · simp only [placeholder]
    · simp only [placeholder, same leaf (List.mem_singleton_self leaf)]
  unfold LeafSteps compareMember
  cases leaf.value.resolve with
  | error error => exact .throw rfl
  | ok value =>
    simp only [Backend.relate]
    split
    · exact relates _ .like likeText
    · exact relates _ .like likeText
    · exact relates _ .comparison (comparisonText leaf.comparator)

end Alike

/-- What columns are called shows in the text and nowhere else. A filter text either fails to
compile for the same reason whatever columns are called, or has a clause either way: with the same
arguments, and with the same text exactly if each of its fields has the same column. -/
theorem compileText_naming {first second : Options}
    (placeholder : first.placeholder = second.placeholder)
    (named : isName first.placeholder.toList = true) (text : String) (count : Counter) :
    (∃ error after,
      Build.outcome (compileText (backend first) text) count = (.error error, after) ∧
      Build.outcome (compileText (backend second) text) count = (.error error, after)) ∨
    ∃ expression clause₁ clause₂ after, parse text = .ok expression ∧
      Build.outcome (compileText (backend first) text) count = (.ok clause₁, after) ∧
      Build.outcome (compileText (backend second) text) count = (.ok clause₂, after) ∧
      clause₁.arguments = clause₂.arguments ∧
      (clause₁.text = clause₂.text ↔
        ∀ leaf ∈ Expression.leaves .filter expression,
          first.column leaf.field = second.column leaf.field) := by
  unfold compileText
  cases parse text with
  | error error => exact .inl ⟨_, count, rfl, rfl⟩
  | ok expression =>
    have outcomes := (sameButColumns_connectives first second).compileTree expression
      (fun leaf _ => sameButColumns_leafSteps placeholder leaf) count count rfl
    have shown₁ : ∀ clause after,
        Build.outcome (compileTree (backend first) expression) count = (.ok clause, after) →
          ShowsColumns first (Expression.leaves .filter expression) clause :=
      fun _ _ => (showsColumns_invariant named).compileTree
    have shown₂ : ∀ clause after,
        Build.outcome (compileTree (backend second) expression) count = (.ok clause, after) →
          ShowsColumns second (Expression.leaves .filter expression) clause :=
      fun _ _ => (showsColumns_invariant (placeholder ▸ named)).compileTree
    dsimp only
    generalize Build.outcome (compileTree (backend first) expression) count = outcome₁ at *
    generalize Build.outcome (compileTree (backend second) expression) count = outcome₂ at *
    cases outcomes with
    | ok same states =>
      obtain rfl := states
      refine .inr ⟨expression, _, _, _, rfl, rfl, rfl, same.arguments, ?_, same.text⟩
      intro texts leaf member
      rw [first.column_eq_quoted_path, second.column_eq_quoted_path,
        paths_eq_of_text_eq (shown₁ _ _ rfl) (shown₂ _ _ rfl) texts leaf member]
    | error same states =>
      obtain rfl := same
      obtain rfl := states
      exact .inl ⟨_, _, rfl, rfl⟩
    | failedAlone allowed => exact allowed.elim

end FilterQuery.Sql
