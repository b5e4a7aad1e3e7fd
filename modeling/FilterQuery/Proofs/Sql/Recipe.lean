import FilterQuery.Compile.Predicate
import FilterQuery.Proofs.Compile.Lockstep
import FilterQuery.Proofs.Sql.Condition

/-!
# Recipes of clauses

A recipe is a tree of calls to the backend of clauses, with the number of arguments that had been
bound before each of its comparisons. Every clause that the backend builds has one: clauses may be
built in any order, and used more than once. `Recipe.clause` makes the calls, `Recipe.meaning` is
what the calls ask for. `compileText_recipe` finds the recipe of a compiled text.
-/

namespace FilterQuery.Sql

/-- The calls that build a clause. A call that binds an argument records how many had been bound
before it. -/
inductive Recipe where
  | compare (comparator : Comparator) (field : String) (value : Value) (bound : Nat)
  | startsWith (field literal : String) (bound : Nat)
  | endsWith (field literal : String) (bound : Nat)
  | not (operand : Recipe)
  | and (operands : List Recipe)
  | or (operands : List Recipe)

/-- The parts of the column of a field, without zero characters. -/
def Options.path (options : Options) (field : String) : List String :=
  (splitText '.' ((options.columns.lookup field).getD field)).map fun part =>
    String.ofList (part.toList.filter (· != '\x00'))

/-- The name of the argument after a number of others. -/
def Options.argumentName (options : Options) (bound : Nat) : String :=
  options.placeholder ++ toString (bound + 1)

/-- The comparison that a comparator asks for. Membership is equality with some element. -/
def comparison (path : List String) (name : String) : Comparator → Atom
  | .equal => ⟨.column path, .equal, .argument name⟩
  | .less => ⟨.column path, .less, .argument name⟩
  | .lessEqual => ⟨.column path, .lessEqual, .argument name⟩
  | .greaterEqual => ⟨.column path, .greaterEqual, .argument name⟩
  | .greater => ⟨.column path, .greater, .argument name⟩
  | .notEqual => ⟨.column path, .notEqual, .argument name⟩
  | .has => ⟨.argument name, .equal, .anyOf path⟩

namespace Recipe

mutual

/-- The clause that the calls build. Connectives bind no argument, so the number of bound arguments
is nothing to them. -/
def clause (options : Options) : Recipe → Except NoOperands Clause
  | .compare comparator field value bound =>
    (((backend options).compare comparator field value).outcome bound).1
  | .startsWith field literal bound =>
    (((backend options).prefixSearch field literal).outcome bound).1
  | .endsWith field literal bound =>
    (((backend options).suffixSearch field literal).outcome bound).1
  | .not operand => do
    let built ← operand.clause options
    (((backend options).negation built).outcome 0).1
  | .and operands => do
    let built ← clauses options operands
    (((backend options).conjunction built).outcome 0).1
  | .or operands => do
    let built ← clauses options operands
    (((backend options).disjunction built).outcome 0).1

/-- The clauses that several recipes build. -/
def clauses (options : Options) : List Recipe → Except NoOperands (List Clause)
  | [] => pure []
  | recipe :: rest => do
    let built ← recipe.clause options
    let others ← clauses options rest
    pure (built :: others)

end

mutual

/-- What the calls ask for, each comparison being told apart by its column, its relation and the
name of its argument. -/
def meaning (options : Options) : Recipe → Meaning
  | .compare comparator field _ bound =>
    .ofAtom (comparison (options.path field) (options.argumentName bound) comparator)
  | .startsWith field _ bound | .endsWith field _ bound =>
    .ofAtom ⟨.column (options.path field), .like, .argument (options.argumentName bound)⟩
  | .not operand => (operand.meaning options).not
  | .and operands => .all (meanings options operands)
  | .or operands => .any (meanings options operands)

/-- What several recipes ask for. -/
def meanings (options : Options) : List Recipe → List Meaning
  | [] => []
  | recipe :: rest => recipe.meaning options :: meanings options rest

end

mutual

/-- The calls as a term, without the numbers of bound arguments. -/
def predicate : Recipe → Predicate
  | .compare comparator field value _ => .compare comparator field value
  | .startsWith field literal _ => .startsWith field literal
  | .endsWith field literal _ => .endsWith field literal
  | .not operand => .not operand.predicate
  | .and operands => .and (predicates operands)
  | .or operands => .or (predicates operands)

/-- The calls of several recipes as terms. -/
def predicates : List Recipe → List Predicate
  | [] => []
  | recipe :: rest => recipe.predicate :: predicates rest

end

mutual

/-- Whether every connective of a recipe has operands. -/
def hasOperands : Recipe → Bool
  | .compare .. | .startsWith .. | .endsWith .. => true
  | .not operand => operand.hasOperands
  | .and operands | .or operands => !operands.isEmpty && allHaveOperands operands

/-- Whether every connective of several recipes has operands. -/
def allHaveOperands : List Recipe → Bool
  | [] => true
  | recipe :: rest => recipe.hasOperands && allHaveOperands rest

end

section Inversion

variable {options : Options} {operands : List Recipe} {clause : Clause}

theorem clause_not_iff {operand : Recipe} :
    (Recipe.not operand).clause options = .ok clause ↔
      ∃ inner, operand.clause options = .ok inner ∧ inner.negate = clause := by
  rw [Recipe.clause]
  cases operand.clause options with
  | error failure => simp [bind, Except.bind]
  | ok inner => simp [bind, Except.bind, backend]

theorem clause_and_iff :
    (Recipe.and operands).clause options = .ok clause ↔
      ∃ inner, clauses options operands = .ok inner ∧
        Clause.join "AND" .conjunction inner = .ok clause := by
  rw [Recipe.clause]
  cases clauses options operands with
  | error failure => simp [bind, Except.bind]
  | ok inner => simp [bind, Except.bind, backend]

theorem clause_or_iff :
    (Recipe.or operands).clause options = .ok clause ↔
      ∃ inner, clauses options operands = .ok inner ∧
        Clause.join "OR" .disjunction inner = .ok clause := by
  rw [Recipe.clause]
  cases clauses options operands with
  | error failure => simp [bind, Except.bind]
  | ok inner => simp [bind, Except.bind, backend]

theorem clauses_cons_iff {recipe : Recipe} {built : List Clause} :
    clauses options (recipe :: operands) = .ok built ↔
      ∃ head rest, recipe.clause options = .ok head ∧ clauses options operands = .ok rest ∧
        head :: rest = built := by
  rw [clauses]
  cases recipe.clause options with
  | error failure => simp [bind, Except.bind]
  | ok head =>
    cases clauses options operands with
    | error failure => simp [bind, Except.bind]
    | ok rest => simp [bind, Except.bind, pure, Except.pure]

end Inversion

mutual

/-- Calls whose connectives have operands never fail. -/
theorem exists_clause (options : Options) (recipe : Recipe) (complete : recipe.hasOperands = true) :
    ∃ clause, recipe.clause options = .ok clause := by
  match recipe with
  | .compare .. => exact ⟨_, rfl⟩
  | .startsWith .. => exact ⟨_, rfl⟩
  | .endsWith .. => exact ⟨_, rfl⟩
  | .not operand =>
    obtain ⟨inner, isClause⟩ := exists_clause options operand complete
    exact ⟨inner.negate, clause_not_iff.mpr ⟨inner, isClause, rfl⟩⟩
  | .and [] => cases complete
  | .and (operand :: rest) =>
    obtain ⟨inner, areClauses, length⟩ := exists_clauses options (operand :: rest) complete
    obtain ⟨head, tail, rfl⟩ := List.exists_cons_of_length_eq_add_one length
    exact ⟨_, clause_and_iff.mpr ⟨head :: tail, areClauses, rfl⟩⟩
  | .or [] => cases complete
  | .or (operand :: rest) =>
    obtain ⟨inner, areClauses, length⟩ := exists_clauses options (operand :: rest) complete
    obtain ⟨head, tail, rfl⟩ := List.exists_cons_of_length_eq_add_one length
    exact ⟨_, clause_or_iff.mpr ⟨head :: tail, areClauses, rfl⟩⟩

/-- The operands of a connective all have clauses. -/
theorem exists_clauses (options : Options) (recipes : List Recipe)
    (complete : allHaveOperands recipes = true) :
    ∃ built, clauses options recipes = .ok built ∧ built.length = recipes.length := by
  match recipes with
  | [] => exact ⟨[], rfl, rfl⟩
  | recipe :: rest =>
    rw [allHaveOperands, Bool.and_eq_true] at complete
    obtain ⟨head, isClause⟩ := exists_clause options recipe complete.1
    obtain ⟨tail, areClauses, length⟩ := exists_clauses options rest complete.2
    exact ⟨head :: tail, clauses_cons_iff.mpr ⟨head, tail, isClause, areClauses, rfl⟩,
      congrArg (· + 1) length⟩

end

/-- A term and the clause that its calls build, under some numbering of the arguments. -/
def Builds (options : Options) (predicate : Predicate) (clause : Clause) : Prop :=
  ∃ recipe : Recipe, recipe.predicate = predicate ∧ recipe.clause options = .ok clause

/-- The operands of a connective are built by a list of recipes. -/
theorem builds_all {options : Options} {terms : List Predicate} {built : List Clause}
    (related : List.Forall₂ (Builds options) terms built) :
    ∃ recipes, predicates recipes = terms ∧ clauses options recipes = .ok built := by
  induction related with
  | nil => exact ⟨[], rfl, rfl⟩
  | @cons term clause terms built head _ inductionHypothesis =>
    obtain ⟨recipe, isTerm, isClause⟩ := head
    obtain ⟨recipes, areTerms, areClauses⟩ := inductionHypothesis
    refine ⟨recipe :: recipes, ?_, ?_⟩
    · rw [predicates, isTerm, areTerms]
    · rw [clauses, isClause, areClauses]
      rfl

end Recipe

/-- The backend of terms beside the backend of clauses. Their states have nothing in common, and
clauses cannot be joined where there are none. -/
def besideTerms :
    Correspondence Unit Counter (CompileError Predicate.Refusal) (CompileError NoOperands) where
  states _ _ := True
  errors _ _ := True
  secondMayFail := True

/-- A comparison of one more argument has a recipe of its own. -/
theorem relate_builds (options : Options) (name : String) (comparator : Comparator)
    (field : String) (value : Value) (count : Nat) :
    ∃ recipe clause,
      ((Predicate.backend name none).relate comparator field value).outcome () =
        (.ok (Recipe.predicate recipe), ()) ∧
      ((backend options).relate comparator field value).outcome count =
        (.ok clause, count + 1) ∧
      recipe.clause options = .ok clause := by
  unfold Backend.relate
  split
  · rename_i literal _
    exact ⟨.startsWith field literal count, _, rfl, rfl, rfl⟩
  · rename_i literal _
    exact ⟨.endsWith field literal count, _, rfl, rfl, rfl⟩
  · exact ⟨.compare _ field value count, _, rfl, rfl, rfl⟩

/-- Terms and clauses are built by the same calls. -/
theorem operations_besideTerms (options : Options) (name : String) :
    besideTerms.Operations (Recipe.Builds options) (Predicate.backend name none)
      (backend options) where
  conjunction := by
    intro terms built related _ count _
    obtain ⟨recipes, rfl, areClauses⟩ := Recipe.builds_all related
    cases joined : Clause.join "AND" .conjunction built with
    | error failure =>
      simp only [Build.outcome_adapt, backend, Build.outcome_ofExcept, joined]
      exact .failedAlone trivial
    | ok clause =>
      simp only [Build.outcome_adapt, backend, Build.outcome_ofExcept, joined]
      refine .ok ⟨.and recipes, rfl, ?_⟩ trivial
      rw [Recipe.clause, areClauses]
      exact joined
  disjunction := by
    intro terms built related _ count _
    obtain ⟨recipes, rfl, areClauses⟩ := Recipe.builds_all related
    cases joined : Clause.join "OR" .disjunction built with
    | error failure =>
      simp only [Build.outcome_adapt, backend, Build.outcome_ofExcept, joined]
      exact .failedAlone trivial
    | ok clause =>
      simp only [Build.outcome_adapt, backend, Build.outcome_ofExcept, joined]
      refine .ok ⟨.or recipes, rfl, ?_⟩ trivial
      rw [Recipe.clause, areClauses]
      exact joined
  negation := by
    rintro term clause ⟨recipe, rfl, isClause⟩ _ count _
    refine .ok ⟨.not recipe, rfl, ?_⟩ trivial
    rw [Recipe.clause, isClause]
    rfl
  relation := by
    intro comparator field value _ count _
    obtain ⟨recipe, clause, term, built, isClause⟩ :=
      relate_builds options name comparator field value count
    rw [Build.outcome_adapt, Build.outcome_adapt, term, built]
    exact .ok ⟨recipe, rfl, isClause⟩ trivial
  error _ := trivial

/-- A clause that a text compiles to has a recipe, which makes the calls that compiling the text
into a term makes. -/
theorem compileText_recipe {options : Options} {text : String} {count after : Nat}
    {clause : Clause} (name : String)
    (compiled : (compileText (backend options) text).outcome count = (.ok clause, after)) :
    ∃ recipe : Recipe, recipe.clause options = .ok clause ∧
      (compileText (Predicate.backend name none) text).outcome () = (.ok recipe.predicate, ()) := by
  have outcomes := (operations_besideTerms options name).compileText text () count trivial
  rw [compiled] at outcomes
  generalize (compileText (Predicate.backend name none) text).outcome () = term at outcomes ⊢
  cases outcomes with
  | ok related _ =>
    obtain ⟨recipe, rfl, isClause⟩ := related
    exact ⟨recipe, isClause, rfl⟩

end FilterQuery.Sql
