import FilterQuery.Proofs.Compile.Leaves

/-!
# Renaming fields

A backend may know fields by other names than filters do. Compiling through a backend that renames
the fields it is given is compiling a tree whose fields are renamed: `compileTree_renameFields`.
Only the fields that conditions are about are renamed. The values of a group may look like fields,
but they are none: inside a group, `Context.names` renames nothing and `Context.renameField` renames
the field that the group is compared with.

Errors name fields as the filter does in the one case, and by their new names in the other.
-/

namespace FilterQuery

section Adapting

variable {State Failure Error Result Next : Type}

theorem Build.ext {first second : Build State Failure Result}
    (same : ∀ state, Build.outcome first state = Build.outcome second state) : first = second :=
  ExceptT.ext (StateT.ext same)

/-- Failures may be renamed step by step. -/
theorem Build.adapt_bind (wrap : Failure → Error) (step : Build State Failure Result)
    (next : Result → Build State Failure Next) :
    ExceptT.adapt wrap (step >>= next) =
      ExceptT.adapt wrap step >>= fun result => ExceptT.adapt wrap (next result) := by
  refine Build.ext fun state => ?_
  simp only [Build.outcome_adapt, Build.outcome_bind]
  rcases Build.outcome step state with ⟨failure | result, after⟩ <;> rfl

theorem Build.adapt_pure (wrap : Failure → Error) (result : Result) :
    ExceptT.adapt wrap (pure result : Build State Failure Result) = pure result := rfl

/-- Failures that are wrapped twice. -/
theorem Build.adapt_adapt {Middle : Type} (wrap : Failure → Middle) (rewrap : Middle → Error)
    (step : Build State Failure Result) :
    ExceptT.adapt rewrap (ExceptT.adapt wrap step) = ExceptT.adapt (rewrap ∘ wrap) step := by
  refine Build.ext fun state => ?_
  simp only [Build.outcome_adapt]
  rcases Build.outcome step state with ⟨failure | result, after⟩ <;> rfl

end Adapting

/-- A way to give fields other names: what becomes of a field and of the path that it spells. -/
structure Renaming where
  member : Member → Member
  path : String → String
  text_member : ∀ field, (member field).text = path field.text

/-- The backend that gives fields other names before it builds anything. -/
def Backend.onFields {State Failure Predicate : Type} (rename : String → String)
    (backend : Backend State Failure Predicate) : Backend State Failure Predicate :=
  { backend with
    prefixSearch := fun field literal => backend.prefixSearch (rename field) literal
    suffixSearch := fun field literal => backend.suffixSearch (rename field) literal
    compare := fun comparator field value => backend.compare comparator (rename field) value }

/-- An error with another name for the field that a comparison or a group is about. -/
def CompileError.renameField {Failure : Type} (rename : String → String) :
    CompileError Failure → CompileError Failure
  | .nestedRestriction field restriction => .nestedRestriction (rename field) restriction
  | .nestedFragment field => .nestedFragment (rename field)
  | .literal field error => .literal (rename field) error
  | .comparison field comparator value failure =>
    .comparison (rename field) comparator value failure
  | error => error

mutual

/-- A term with other fields in the conditions that it has. -/
def Term.renameFields (names : Renaming) : Term → Term
  | .mk negated simple => .mk negated (simple.renameFields names)

/-- A condition about another field. Values are left alone, also those of a group. -/
def Simple.renameFields (names : Renaming) : Simple → Simple
  | .missing => .missing
  | .bare value => .bare value
  | .compare field sign argument => .compare (names.member field) sign argument
  | .compareEach field sign values => .compareEach (names.member field) sign values
  | .group expression => .group (Expression.renameFields names expression)

/-- An expression with other fields in the conditions that it has. -/
def Expression.renameFields (names : Renaming) :
    List (List (List Term)) → List (List (List Term))
  | [] => []
  | sequence :: rest =>
    Sequence.renameFields names sequence :: Expression.renameFields names rest

/-- A sequence with other fields in the conditions that it has. -/
def Sequence.renameFields (names : Renaming) : List (List Term) → List (List Term)
  | [] => []
  | factor :: rest => Factor.renameFields names factor :: Sequence.renameFields names rest

/-- A factor with other fields in the conditions that it has. -/
def Factor.renameFields (names : Renaming) : List Term → List Term
  | [] => []
  | term :: rest => term.renameFields names :: Factor.renameFields names rest

end

/-- The renaming that leaves every field as it is. -/
def Renaming.identity : Renaming := ⟨id, id, fun _ => rfl⟩

mutual

theorem Term.renameFields_identity (term : Term) : term.renameFields .identity = term := by
  match term with
  | .mk negated simple => simp only [Term.renameFields, simple.renameFields_identity]

theorem Simple.renameFields_identity (simple : Simple) :
    simple.renameFields .identity = simple := by
  match simple with
  | .missing | .bare _ => simp only [Simple.renameFields]
  | .compare _ _ _ | .compareEach _ _ _ =>
    simp only [Simple.renameFields]
    rfl
  | .group expression =>
    simp only [Simple.renameFields, Expression.renameFields_identity expression]

theorem Expression.renameFields_identity (expression : List (List (List Term))) :
    Expression.renameFields .identity expression = expression := by
  match expression with
  | [] => simp only [Expression.renameFields]
  | sequence :: rest =>
    simp only [Expression.renameFields, Sequence.renameFields_identity sequence,
      Expression.renameFields_identity rest]

theorem Sequence.renameFields_identity (sequence : List (List Term)) :
    Sequence.renameFields .identity sequence = sequence := by
  match sequence with
  | [] => simp only [Sequence.renameFields]
  | factor :: rest =>
    simp only [Sequence.renameFields, Factor.renameFields_identity factor,
      Sequence.renameFields_identity rest]

theorem Factor.renameFields_identity (factor : List Term) :
    Factor.renameFields .identity factor = factor := by
  match factor with
  | [] => simp only [Factor.renameFields]
  | term :: rest =>
    simp only [Factor.renameFields, term.renameFields_identity,
      Factor.renameFields_identity rest]

end

/-- The other names of the fields in a context. In the group that a field is compared with, what
looks like a field is a value. -/
def Context.names (names : Renaming) : Context → Renaming
  | .filter => names
  | .argument _ _ => .identity

/-- A context with another name for the field that a group is compared with. -/
def Context.renameField (rename : String → String) : Context → Context
  | .filter => .filter
  | .argument field comparator => .argument (rename field) comparator

section Compiling

variable {State Failure Predicate : Type} (backend : Backend State Failure Predicate)
  (rename : String → String)

theorem Backend.relate_onFields (comparator : Comparator) (field : String) (value : Value) :
    (backend.onFields rename).relate comparator field value =
      backend.relate comparator (rename field) value := by
  unfold Backend.relate
  split <;> rfl

theorem compareMember_onFields (field : String) (comparator : Comparator) (member : Member) :
    compareMember backend (rename field) comparator member =
      ExceptT.adapt (CompileError.renameField rename)
        (compareMember (backend.onFields rename) field comparator member) := by
  unfold compareMember
  cases member.resolve with
  | error error => rfl
  | ok value =>
    simp only [backend.relate_onFields, Build.adapt_adapt]
    rfl

theorem joinPredicates_renameField (combine : List Predicate → Build State Failure Predicate)
    (predicates : List Predicate) :
    ExceptT.adapt (CompileError.renameField rename) (joinPredicates combine predicates) =
      joinPredicates combine predicates := by
  unfold joinPredicates
  split
  · rfl
  · rw [Build.adapt_adapt]
    rfl

theorem failNested_renameField (field : String) (restriction : Simple) :
    (failNested (rename field) restriction : Build State (CompileError Failure) Predicate) =
      ExceptT.adapt (CompileError.renameField rename) (failNested field restriction) := by
  unfold failNested
  cases restriction.render? <;> rfl

theorem negateIf_renameField (negated : Bool) (predicate : Predicate) :
    ExceptT.adapt (CompileError.renameField rename)
        (if negated then ExceptT.adapt CompileError.combination (backend.negation predicate)
        else pure predicate) =
      if negated then ExceptT.adapt CompileError.combination (backend.negation predicate)
      else pure predicate := by
  cases negated with
  | true => exact Build.adapt_adapt _ _ _
  | false => rfl

section Filters

variable (names : Renaming)

mutual

theorem Term.compile_renameIn (context : Context) (term : Term) :
    (term.renameFields (context.names names)).compile backend (context.renameField names.path) =
      ExceptT.adapt (CompileError.renameField names.path)
        (term.compile (backend.onFields names.path) context) := by
  match term with
  | .mk negated simple =>
    simp only [Term.renameFields, Term.compile, Build.adapt_bind,
      simple.compile_renameIn context, negateIf_renameField]
    rfl

theorem Simple.compile_renameIn (context : Context) (simple : Simple) :
    (simple.renameFields (context.names names)).compile backend (context.renameField names.path) =
      ExceptT.adapt (CompileError.renameField names.path)
        (simple.compile (backend.onFields names.path) context) := by
  match simple, context with
  | .missing, _ | .bare _, .filter =>
    simp only [Simple.renameFields, Simple.compile]
    rfl
  | .bare value, .argument field comparator =>
    simp only [Simple.renameFields, Simple.compile]
    exact compareMember_onFields backend names.path field comparator value
  | .compare _ _ _, .argument field _ | .compareEach _ _ _, .argument field _ =>
    simp only [Simple.renameFields, Simple.compile]
    exact failNested_renameField names.path field _
  | .compare field sign argument, .filter =>
    simp only [Simple.renameFields, Simple.compile, Context.names, names.text_member]
    cases Comparator.ofSign? sign with
    | none => rfl
    | some comparator =>
      cases argument with
      | none => rfl
      | some member => exact compareMember_onFields backend names.path field.text comparator member
  | .compareEach field sign values, .filter =>
    simp only [Simple.renameFields, Simple.compile, Context.names, names.text_member]
    cases Comparator.ofSign? sign with
    | none => rfl
    | some comparator =>
      -- The values are the same on both sides; what differs is the field they are compared with.
      have each := Expression.compileParts_renameIn (.argument field.text comparator) values
      rw [Context.names, Expression.renameFields_identity, Context.renameField] at each
      simp only [Build.adapt_bind, joinPredicates_renameField, each]
      rfl
  | .group expression, context =>
    simp only [Simple.renameFields, Simple.compile, Build.adapt_bind, joinPredicates_renameField,
      Expression.compileParts_renameIn context expression]
    rfl

theorem Expression.compileParts_renameIn (context : Context)
    (expression : List (List (List Term))) :
    Expression.compileParts backend (context.renameField names.path)
        (Expression.renameFields (context.names names) expression) =
      ExceptT.adapt (CompileError.renameField names.path)
        (Expression.compileParts (backend.onFields names.path) context expression) := by
  match expression with
  | [] => simp only [Expression.renameFields, Expression.compileParts, Build.adapt_pure]
  | sequence :: rest =>
    simp only [Expression.renameFields, Expression.compileParts, Build.adapt_bind,
      Build.adapt_pure, joinPredicates_renameField,
      Sequence.compileParts_renameIn context sequence,
      Expression.compileParts_renameIn context rest]
    rfl

theorem Sequence.compileParts_renameIn (context : Context) (sequence : List (List Term)) :
    Sequence.compileParts backend (context.renameField names.path)
        (Sequence.renameFields (context.names names) sequence) =
      ExceptT.adapt (CompileError.renameField names.path)
        (Sequence.compileParts (backend.onFields names.path) context sequence) := by
  match sequence with
  | [] => simp only [Sequence.renameFields, Sequence.compileParts, Build.adapt_pure]
  | factor :: rest =>
    simp only [Sequence.renameFields, Sequence.compileParts, Build.adapt_bind, Build.adapt_pure,
      joinPredicates_renameField, Factor.compileParts_renameIn context factor,
      Sequence.compileParts_renameIn context rest]
    rfl

theorem Factor.compileParts_renameIn (context : Context) (factor : List Term) :
    Factor.compileParts backend (context.renameField names.path)
        (Factor.renameFields (context.names names) factor) =
      ExceptT.adapt (CompileError.renameField names.path)
        (Factor.compileParts (backend.onFields names.path) context factor) := by
  match factor with
  | [] => simp only [Factor.renameFields, Factor.compileParts, Build.adapt_pure]
  | term :: rest =>
    simp only [Factor.renameFields, Factor.compileParts, Build.adapt_bind, Build.adapt_pure,
      term.compile_renameIn context, Factor.compileParts_renameIn context rest]

end

/-- Renaming the fields of a tree renames them for the backend. -/
theorem compileTree_renameFields (expression : Expression) :
    compileTree backend (Expression.renameFields names expression) =
      ExceptT.adapt (CompileError.renameField names.path)
        (compileTree (backend.onFields names.path) expression) := by
  match expression with
  | [] => rfl
  | sequence :: rest =>
    unfold compileTree Expression.compileIn
    have parts :=
      Expression.compileParts_renameIn backend names .filter (sequence :: rest)
    rw [Context.names, Context.renameField] at parts
    rw [parts]
    simp only [Expression.renameFields, List.isEmpty_cons, Bool.false_eq_true, if_false,
      Build.adapt_bind, joinPredicates_renameField]
    rfl

end Filters

end Compiling

section Leaves

/-- A leaf about another field. -/
def Leaf.renameField (rename : String → String) (leaf : Leaf) : Leaf :=
  { leaf with field := rename leaf.field }

variable (names : Renaming)

mutual

theorem Term.leaves_renameIn (context : Context) (term : Term) :
    (term.renameFields (context.names names)).leaves (context.renameField names.path) =
      (term.leaves context).map (Leaf.renameField names.path) := by
  match term with
  | .mk _ simple => simp only [Term.renameFields, Term.leaves, simple.leaves_renameIn context]

theorem Simple.leaves_renameIn (context : Context) (simple : Simple) :
    (simple.renameFields (context.names names)).leaves (context.renameField names.path) =
      (simple.leaves context).map (Leaf.renameField names.path) := by
  match simple, context with
  | .missing, _ | .bare _, .filter | .bare _, .argument _ _ | .compare _ _ _, .argument _ _
  | .compareEach _ _ _, .argument _ _ =>
    simp only [Simple.renameFields, Simple.leaves]
    rfl
  | .compare field sign argument, .filter =>
    simp only [Simple.renameFields, Simple.leaves, Context.names, Context.renameField,
      names.text_member]
    cases Comparator.ofSign? sign with
    | none => rfl
    | some comparator => cases argument <;> rfl
  | .compareEach field sign values, .filter =>
    simp only [Simple.renameFields, Simple.leaves, Context.names, Context.renameField,
      names.text_member]
    cases Comparator.ofSign? sign with
    | none => rfl
    | some comparator =>
      have each := Expression.leaves_renameIn (.argument field.text comparator) values
      rwa [Context.names, Expression.renameFields_identity, Context.renameField] at each
  | .group expression, context =>
    simp only [Simple.renameFields, Simple.leaves, Expression.leaves_renameIn context expression]

theorem Expression.leaves_renameIn (context : Context) (expression : List (List (List Term))) :
    Expression.leaves (context.renameField names.path)
        (Expression.renameFields (context.names names) expression) =
      (Expression.leaves context expression).map (Leaf.renameField names.path) := by
  match expression with
  | [] => simp only [Expression.renameFields, Expression.leaves, List.map_nil]
  | sequence :: rest =>
    simp only [Expression.renameFields, Expression.leaves, List.map_append,
      Sequence.leaves_renameIn context sequence, Expression.leaves_renameIn context rest]

theorem Sequence.leaves_renameIn (context : Context) (sequence : List (List Term)) :
    Sequence.leaves (context.renameField names.path)
        (Sequence.renameFields (context.names names) sequence) =
      (Sequence.leaves context sequence).map (Leaf.renameField names.path) := by
  match sequence with
  | [] => simp only [Sequence.renameFields, Sequence.leaves, List.map_nil]
  | factor :: rest =>
    simp only [Sequence.renameFields, Sequence.leaves, List.map_append,
      Factor.leaves_renameIn context factor, Sequence.leaves_renameIn context rest]

theorem Factor.leaves_renameIn (context : Context) (factor : List Term) :
    Factor.leaves (context.renameField names.path)
        (Factor.renameFields (context.names names) factor) =
      (Factor.leaves context factor).map (Leaf.renameField names.path) := by
  match factor with
  | [] => simp only [Factor.renameFields, Factor.leaves, List.map_nil]
  | term :: rest =>
    simp only [Factor.renameFields, Factor.leaves, List.map_append, term.leaves_renameIn context,
      Factor.leaves_renameIn context rest]

end

/-- The leaves of a renamed tree are the leaves of the tree, with other fields and the same
values. -/
theorem Expression.leaves_renameFields (expression : List (List (List Term))) :
    Expression.leaves .filter (Expression.renameFields names expression) =
      (Expression.leaves .filter expression).map (Leaf.renameField names.path) :=
  Expression.leaves_renameIn names .filter expression

end Leaves

end FilterQuery
