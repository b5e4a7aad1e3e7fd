import FilterQuery.Compile.Basic

/-!
# Trees at other positions

Two trees differ in nothing but positions when one is the other with its positions mapped. Neither
the written form of a tree nor its compilation depends on them.
-/

namespace FilterQuery

/-- A literal that stands elsewhere. -/
def Literal.mapPosition (move : Nat → Nat) (literal : Literal) : Literal :=
  { literal with position := move literal.position }

/-- A member whose parts stand elsewhere. -/
def Member.mapPosition (move : Nat → Nat) (member : Member) : Member :=
  ⟨member.head.mapPosition move, member.fields.map (Literal.mapPosition move)⟩

mutual

/-- A term that stands elsewhere. -/
def Term.mapPosition (move : Nat → Nat) : Term → Term
  | .mk negated simple => .mk negated (simple.mapPosition move)

/-- A condition that stands elsewhere. -/
def Simple.mapPosition (move : Nat → Nat) : Simple → Simple
  | .missing => .missing
  | .bare value => .bare (value.mapPosition move)
  | .compare field sign argument =>
    .compare (field.mapPosition move) sign (argument.map (Member.mapPosition move))
  | .compareEach field sign values =>
    .compareEach (field.mapPosition move) sign (Expression.mapPosition move values)
  | .group expression => .group (Expression.mapPosition move expression)

/-- An expression that stands elsewhere. -/
def Expression.mapPosition (move : Nat → Nat) : List (List (List Term)) → List (List (List Term))
  | [] => []
  | sequence :: rest => Sequence.mapPosition move sequence :: Expression.mapPosition move rest

/-- A sequence that stands elsewhere. -/
def Sequence.mapPosition (move : Nat → Nat) : List (List Term) → List (List Term)
  | [] => []
  | factor :: rest => Factor.mapPosition move factor :: Sequence.mapPosition move rest

/-- A factor that stands elsewhere. -/
def Factor.mapPosition (move : Nat → Nat) : List Term → List Term
  | [] => []
  | term :: rest => term.mapPosition move :: Factor.mapPosition move rest

end

variable (move : Nat → Nat)

theorem Factor.mapPosition_eq_map (factor : Factor) :
    Factor.mapPosition move factor = factor.map (Term.mapPosition move) := by
  induction factor with
  | nil => rfl
  | cons term rest inductionHypothesis => rw [mapPosition, inductionHypothesis, List.map_cons]

theorem Sequence.mapPosition_eq_map (sequence : Sequence) :
    Sequence.mapPosition move sequence = sequence.map (Factor.mapPosition move) := by
  induction sequence with
  | nil => rfl
  | cons factor rest inductionHypothesis => rw [mapPosition, inductionHypothesis, List.map_cons]

theorem Expression.mapPosition_eq_map (expression : Expression) :
    Expression.mapPosition move expression = expression.map (Sequence.mapPosition move) := by
  induction expression with
  | nil => rfl
  | cons sequence rest inductionHypothesis => rw [mapPosition, inductionHypothesis, List.map_cons]

@[simp] theorem Member.text_mapPosition (member : Member) :
    (member.mapPosition move).text = member.text := by
  have same : Literal.text ∘ Literal.mapPosition move = Literal.text := rfl
  simp [text, parts, mapPosition, Literal.mapPosition, same]

@[simp] theorem Member.resolve_mapPosition (member : Member) :
    (member.mapPosition move).resolve = member.resolve := by
  unfold resolve
  rw [text_mapPosition]
  simp only [mapPosition, List.isEmpty_map]
  rfl

section Written

mutual

theorem Term.render?_mapPosition (term : Term) :
    (term.mapPosition move).render? = term.render? := by
  match term with
  | .mk true simple => simp only [Term.mapPosition, Term.render?, simple.render?_mapPosition]
  | .mk false simple => simp only [Term.mapPosition, Term.render?, simple.render?_mapPosition]

theorem Simple.render?_mapPosition (simple : Simple) :
    (simple.mapPosition move).render? = simple.render? := by
  match simple with
  | .missing => rfl
  | .bare value => simp only [Simple.mapPosition, Simple.render?, Member.text_mapPosition]
  | .compare field sign none => rfl
  | .compare field sign (some argument) =>
    simp only [Simple.mapPosition, Option.map_some, Simple.render?, Member.text_mapPosition]
  | .compareEach field sign values =>
    simp only [Simple.mapPosition, Simple.render?, Member.text_mapPosition,
      Expression.renderParts?_mapPosition values]
  | .group expression =>
    simp only [Simple.mapPosition, Simple.render?, Expression.renderParts?_mapPosition expression]

theorem Expression.renderParts?_mapPosition (expression : List (List (List Term))) :
    Expression.renderParts? (Expression.mapPosition move expression) =
      Expression.renderParts? expression := by
  match expression with
  | [] => rfl
  | sequence :: rest =>
    simp only [Expression.mapPosition, Expression.renderParts?,
      Sequence.renderParts?_mapPosition sequence, Expression.renderParts?_mapPosition rest]

theorem Sequence.renderParts?_mapPosition (sequence : List (List Term)) :
    Sequence.renderParts? (Sequence.mapPosition move sequence) =
      Sequence.renderParts? sequence := by
  match sequence with
  | [] => rfl
  | factor :: rest =>
    simp only [Sequence.mapPosition, Sequence.renderParts?, Factor.renderParts?_mapPosition factor,
      Sequence.renderParts?_mapPosition rest]

theorem Factor.renderParts?_mapPosition (factor : List Term) :
    Factor.renderParts? (Factor.mapPosition move factor) = Factor.renderParts? factor := by
  match factor with
  | [] => rfl
  | term :: rest =>
    simp only [Factor.mapPosition, Factor.renderParts?, term.render?_mapPosition,
      Factor.renderParts?_mapPosition rest]

end

end Written

section Compilation

variable {State Failure Predicate : Type} (backend : Backend State Failure Predicate)

theorem compareMember_mapPosition (field : String) (comparator : Comparator) (member : Member) :
    compareMember backend field comparator (member.mapPosition move) =
      compareMember backend field comparator member := by
  unfold compareMember
  rw [Member.resolve_mapPosition]

theorem failNested_mapPosition (field : String) (simple : Simple) :
    failNested field (simple.mapPosition move) =
      (failNested field simple : Build State (CompileError Failure) Predicate) := by
  unfold failNested
  rw [Simple.render?_mapPosition]

mutual

theorem Term.compile_mapPosition (context : Context) (term : Term) :
    (term.mapPosition move).compile backend context = term.compile backend context := by
  match term with
  | .mk negated simple =>
    simp only [Term.mapPosition, Term.compile, simple.compile_mapPosition context]

theorem Simple.compile_mapPosition (context : Context) (simple : Simple) :
    (simple.mapPosition move).compile backend context = simple.compile backend context := by
  match simple, context with
  | .missing, _ => rfl
  | .bare value, .filter => simp only [Simple.mapPosition, Simple.compile, Member.text_mapPosition]
  | .bare value, .argument field comparator =>
    simp only [Simple.mapPosition, Simple.compile, compareMember_mapPosition]
  | .compare field sign argument, .argument outer _ =>
    simp only [Simple.compile]
    exact failNested_mapPosition move outer (.compare field sign argument)
  | .compare field sign argument, .filter =>
    simp only [Simple.mapPosition, Simple.compile, Member.text_mapPosition]
    cases Comparator.ofSign? sign with
    | none => rfl
    | some comparator =>
      cases argument with
      | none => rfl
      | some value => exact compareMember_mapPosition move backend field.text comparator value
  | .compareEach field sign values, .argument outer _ =>
    simp only [Simple.compile]
    exact failNested_mapPosition move outer (.compareEach field sign values)
  | .compareEach field sign values, .filter =>
    simp only [Simple.mapPosition, Simple.compile, Member.text_mapPosition,
      Expression.compileParts_mapPosition _ values]
  | .group expression, context =>
    simp only [Simple.mapPosition, Simple.compile,
      Expression.compileParts_mapPosition context expression]

theorem Expression.compileParts_mapPosition (context : Context)
    (expression : List (List (List Term))) :
    Expression.compileParts backend context (Expression.mapPosition move expression) =
      Expression.compileParts backend context expression := by
  match expression with
  | [] => rfl
  | sequence :: rest =>
    simp only [Expression.mapPosition, Expression.compileParts,
      Sequence.compileParts_mapPosition context sequence,
      Expression.compileParts_mapPosition context rest]

theorem Sequence.compileParts_mapPosition (context : Context) (sequence : List (List Term)) :
    Sequence.compileParts backend context (Sequence.mapPosition move sequence) =
      Sequence.compileParts backend context sequence := by
  match sequence with
  | [] => rfl
  | factor :: rest =>
    simp only [Sequence.mapPosition, Sequence.compileParts,
      Factor.compileParts_mapPosition context factor,
      Sequence.compileParts_mapPosition context rest]

theorem Factor.compileParts_mapPosition (context : Context) (factor : List Term) :
    Factor.compileParts backend context (Factor.mapPosition move factor) =
      Factor.compileParts backend context factor := by
  match factor with
  | [] => rfl
  | term :: rest =>
    simp only [Factor.mapPosition, Factor.compileParts, term.compile_mapPosition context,
      Factor.compileParts_mapPosition context rest]

end

end Compilation

end FilterQuery
