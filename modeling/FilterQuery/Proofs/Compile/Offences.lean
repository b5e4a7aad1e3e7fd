import FilterQuery.Compile.Predicate
import FilterQuery.Document.Query
import FilterQuery.Proofs.Compile.Completeness
import FilterQuery.Proofs.Sql.Independence
import FilterQuery.Proofs.Tree.Restrictions

/-!
# Why filters do not compile

A restriction that cannot stand where it stands, or whose literal has no value, offends. Through a
backend that builds a predicate wherever it has an operand to build it from, nothing but the
restrictions decides whether a filter compiles, and the first offending one decides on the error.
So such backends accept the same filters and refuse the others with the same words.

`Build.StopsAt` says how a step ends whatever the state, also where the backend may fail;
`Backend.FailsBy.stopsAt_compileTree` is the result of following it through a tree.
-/

namespace FilterQuery

section Offences

/-- The error of a value that is to be compared with a field and is none. -/
def Member.offence? (field : String) (value : Member) : Option (CompileError Empty) :=
  match value.resolve with
  | .ok _ => none
  | .error error => some (.literal field error)

/-- The error of a restriction in the group of a field. It quotes the restriction. -/
def Simple.nestedOffence (field : String) (restriction : Simple) : CompileError Empty :=
  match restriction.render? with
  | some text => .nestedRestriction field text
  | none => .nestedFragment field

namespace Restriction

/-- The error of a restriction where it stands, if it offends. Outside of the groups that fields are
compared with, a restriction needs a comparator and a value; inside of them it is to be a bare
value. -/
def offence? : Restriction → Option (CompileError Empty)
  | ⟨_, .missing⟩ => some .missingNode
  | ⟨_, .group _⟩ => none
  | ⟨none, .bare value⟩ => some (.noComparator value.text)
  | ⟨none, .compare field sign argument⟩ =>
    match Comparator.ofSign? sign, argument with
    | none, _ => some (.unsupportedComparator sign)
    | some _, none => some .missingArgument
    | some _, some value => value.offence? field.text
  | ⟨none, .compareEach _ sign _⟩ =>
    match Comparator.ofSign? sign with
    | none => some (.unsupportedComparator sign)
    | some _ => none
  | ⟨some field, .bare value⟩ => value.offence? field
  | ⟨some field, restriction⟩ => some (restriction.nestedOffence field)

/-- The comparison sign of a restriction. Bare values have none. -/
def sign? : Restriction → Option String
  | ⟨_, .compare _ sign _⟩ | ⟨_, .compareEach _ sign _⟩ => some sign
  | ⟨_, .bare _⟩ | ⟨_, .missing⟩ | ⟨_, .group _⟩ => none

/-- The literal that a field is compared with: the argument of a restriction, or a bare value in the
group of a field. -/
def argument? : Restriction → Option Member
  | ⟨_, .compare _ _ argument⟩ => argument
  | ⟨some _, .bare value⟩ => some value
  | _ => none

/-- A restriction that may stand where it stands and whose literal has a value. -/
structure IsFit (restriction : Restriction) : Prop where
  compared : restriction.governing = none → ∃ sign, restriction.sign? = some sign
  global : restriction.governing ≠ none → restriction.sign? = none
  resolves : ∀ literal, restriction.argument? = some literal →
    ∃ value, literal.resolve = .ok value

end Restriction

/-- The error of the first of several restrictions that offends. -/
def firstOffence (restrictions : List Restriction) : Option (CompileError Empty) :=
  restrictions.findSome? Restriction.offence?

theorem firstOffence_append (first second : List Restriction) :
    firstOffence (first ++ second) = (firstOffence first).or (firstOffence second) :=
  List.findSome?_append

theorem firstOffence_singleton (restriction : Restriction) :
    firstOffence [restriction] = restriction.offence? := by
  cases found : restriction.offence? <;> simp [firstOffence, found]

theorem firstOffence_cons (restriction : Restriction) (rest : List Restriction) :
    firstOffence (restriction :: rest) = restriction.offence?.or (firstOffence rest) := by
  rw [← firstOffence_singleton, ← firstOffence_append]
  rfl

theorem Member.offence?_eq_none_iff {field : String} {value : Member} :
    value.offence? field = none ↔ ∃ resolved, value.resolve = .ok resolved := by
  unfold Member.offence?
  cases value.resolve <;> simp

namespace Restriction

/-- A restriction that may stand where it stands is fit exactly if its literal has a value. -/
theorem isFit_iff_resolves {restriction : Restriction} {literal : Member}
    (compared : restriction.governing = none → ∃ sign, restriction.sign? = some sign)
    (global : restriction.governing ≠ none → restriction.sign? = none)
    (argument : restriction.argument? = some literal) :
    restriction.IsFit ↔ ∃ value, literal.resolve = .ok value := by
  constructor
  · intro fit
    exact fit.resolves literal argument
  · intro resolves
    refine ⟨compared, global, fun other isArgument => ?_⟩
    obtain rfl : literal = other := Option.some.inj (argument.symm.trans isArgument)
    exact resolves

/-- A comparison in the group of a field is not fit. -/
theorem not_isFit_of_sign {restriction : Restriction} {field sign : String}
    (inside : restriction.governing = some field) (signed : restriction.sign? = some sign) :
    ¬ restriction.IsFit := by
  intro fit
  have unsigned := fit.global (by simp [inside])
  rw [signed] at unsigned
  cases unsigned

/-- A restriction from which nothing is missing offends unless it is fit. -/
theorem IsWhole.offence?_eq_none_iff {restriction : Restriction}
    (whole : restriction.IsWhole fun sign =>
      ∃ comparator, Comparator.ofSign? sign = some comparator) :
    restriction.offence? = none ↔ restriction.IsFit := by
  cases whole with
  | @bare governing value =>
    cases governing with
    | none =>
      refine iff_of_false (Option.some_ne_none _) fun fit => ?_
      obtain ⟨sign, signed⟩ := fit.compared rfl
      cases signed
    | some field =>
      rw [isFit_iff_resolves (fun outside => by cases outside) (fun _ => rfl) rfl]
      exact Member.offence?_eq_none_iff
  | @compare governing field argument sign known =>
    obtain ⟨comparator, known⟩ := known
    cases governing with
    | none =>
      have own : offence? ⟨none, .compare field sign (some argument)⟩ =
          argument.offence? field.text := by
        simp only [offence?, known]
      rw [own, isFit_iff_resolves (fun _ => ⟨sign, rfl⟩) (fun inside => absurd rfl inside) rfl]
      exact Member.offence?_eq_none_iff
    | some outer => exact iff_of_false (Option.some_ne_none _) (not_isFit_of_sign rfl rfl)
  | @compareEach governing field sign values known =>
    obtain ⟨comparator, known⟩ := known
    cases governing with
    | none =>
      have own : offence? ⟨none, .compareEach field sign values⟩ = none := by
        simp only [offence?, known]
      -- It has no literal of its own: those of its group are listed after it.
      refine iff_of_true own ⟨fun _ => ⟨sign, rfl⟩, fun inside => absurd rfl inside, ?_⟩
      intro literal isArgument
      cases isArgument
    | some outer => exact iff_of_false (Option.some_ne_none _) (not_isFit_of_sign rfl rfl)

end Restriction

end Offences

section Stops

variable {State Failure Result Next Predicate : Type}

/-- An error with one of the given failures of a backend. -/
def CompileError.IsRaised (raises : Failure → Prop) : CompileError Failure → Prop
  | .comparison _ _ _ failure => raises failure
  | .combination failure => raises failure
  | _ => False

theorem CompileError.not_isRaised_by_none (error : CompileError Failure) :
    ¬ error.IsRaised fun _ => False := by
  cases error <;> exact id

/-- How a step ends that may offend and may meet failures of the backend: it returns a result, and
one of a certain kind, only if it does not offend, and it fails by the offence or by a failure. -/
def Build.StopsAt (raises : Failure → Prop) (offence? : Option (CompileError Empty))
    (kind : Result → Prop) (step : Build State (CompileError Failure) Result) : Prop :=
  ∀ state,
    match (Build.outcome step state).1 with
    | .ok result => offence? = none ∧ kind result
    | .error error => offence?.map CompileError.lift = some error ∨ error.IsRaised raises

/-- Everything that a backend fails by. What it does without operands counts only where lists may
be empty. -/
structure Backend.FailsBy (backend : Backend State Failure Predicate) (raises : Failure → Prop)
    (mayBeEmpty : Prop) : Prop where
  conjunction : ∀ operands, mayBeEmpty ∨ operands ≠ [] → ∀ state failure,
    (Build.outcome (backend.conjunction operands) state).1 = .error failure → raises failure
  disjunction : ∀ operands, mayBeEmpty ∨ operands ≠ [] → ∀ state failure,
    (Build.outcome (backend.disjunction operands) state).1 = .error failure → raises failure
  negation : ∀ operand state failure,
    (Build.outcome (backend.negation operand) state).1 = .error failure → raises failure
  relation : ∀ comparator field value state failure,
    (Build.outcome (backend.relate comparator field value) state).1 = .error failure →
      raises failure

namespace Build.StopsAt

variable {raises : Failure → Prop} {offence? nextOffence? : Option (CompileError Empty)}
  {kind : Result → Prop} {nextKind : Next → Prop}

theorem pure {result : Result} (isKind : kind result) :
    Build.StopsAt raises none kind
      (Pure.pure result : Build State (CompileError Failure) Result) :=
  fun _ => ⟨rfl, isKind⟩

theorem fail (offence : CompileError Empty) :
    Build.StopsAt raises (some offence) kind
      (FilterQuery.fail offence.lift : Build State (CompileError Failure) Result) :=
  fun _ => .inl rfl

/-- A call of the backend does not offend. -/
theorem adapt {step : Build State Failure Result} {wrap : Failure → CompileError Failure}
    (fails : ∀ state failure, (Build.outcome step state).1 = .error failure → raises failure)
    (wraps : ∀ failure, raises failure → (wrap failure).IsRaised raises) :
    Build.StopsAt raises none (fun _ => True) (ExceptT.adapt wrap step) := by
  intro state
  have raised := fails state
  rw [Build.outcome_adapt]
  rcases outcome : Build.outcome step state with ⟨failure | result, after⟩ <;>
    rw [outcome] at raised
  · exact .inr (wraps failure (raised failure rfl))
  · exact ⟨rfl, trivial⟩

/-- The first offence stops a step; what would come after it does not matter. -/
theorem bind {step : Build State (CompileError Failure) Result}
    {next : Result → Build State (CompileError Failure) Next}
    (stops : Build.StopsAt raises offence? kind step)
    (continues : ∀ result, kind result → Build.StopsAt raises nextOffence? nextKind (next result)) :
    Build.StopsAt raises (offence?.or nextOffence?) nextKind (step >>= next) := by
  intro state
  have first := stops state
  rw [Build.outcome_bind]
  rcases outcome : Build.outcome step state with ⟨error | result, after⟩ <;> rw [outcome] at first
  · rcases first with offends | raised
    · obtain ⟨offence, rfl, lifted⟩ := Option.map_eq_some_iff.mp offends
      exact .inl (congrArg some lifted)
    · exact .inr raised
  · obtain ⟨rfl, isKind⟩ : offence? = none ∧ kind result := first
    exact continues result isKind after

/-- A call that follows does not offend. -/
theorem before {step : Build State (CompileError Failure) Result}
    {next : Result → Build State (CompileError Failure) Next}
    (stops : Build.StopsAt raises offence? kind step)
    (continues : ∀ result, kind result → Build.StopsAt raises none nextKind (next result)) :
    Build.StopsAt raises offence? nextKind (step >>= next) := by
  have both := stops.bind continues
  rwa [Option.or_none] at both

/-- Predicates are joined after they are built, one for each item, which does not offend. -/
theorem join {Item : Type} {items : List Item} {mayBeEmpty : Prop}
    {combine : List Predicate → Build State Failure Predicate}
    (fails : ∀ operands, mayBeEmpty ∨ operands ≠ [] → ∀ state failure,
      (Build.outcome (combine operands) state).1 = .error failure → raises failure)
    (nonempty : mayBeEmpty ∨ (!items.isEmpty) = true)
    {parts : Build State (CompileError Failure) (List Predicate)}
    (stops : Build.StopsAt raises offence? (fun operands => operands.length = items.length)
      parts) :
    Build.StopsAt raises offence? (fun _ => True) (parts >>= joinPredicates combine) := by
  refine stops.before fun operands sameLength => ?_
  unfold joinPredicates
  split
  · exact pure trivial
  · refine adapt (fails operands (nonempty.imp_right ?_)) fun _ raised => raised
    rintro isFilled rfl
    have noItems : items = [] := List.length_eq_zero_iff.mp sameLength.symm
    simp [noItems] at isFilled

/-- One more predicate in front of those of a list. -/
theorem cons {Item : Type} {item : Item} {items : List Item}
    {step : Build State (CompileError Failure) Predicate}
    {others : Build State (CompileError Failure) (List Predicate)}
    (stops : Build.StopsAt raises offence? (fun _ => True) step)
    (continues : Build.StopsAt raises nextOffence?
      (fun operands => operands.length = items.length) others) :
    Build.StopsAt raises (offence?.or nextOffence?)
      (fun operands : List Predicate => operands.length = (item :: items).length)
      (step >>= fun predicate => others >>= fun predicates =>
        Pure.pure (predicate :: predicates)) := by
  refine stops.bind fun predicate _ => continues.before fun predicates sameLength => ?_
  exact pure (congrArg (· + 1) sameLength)

/-- A step through a backend that does not fail returns exactly if it does not offend. -/
theorem exists_ok_iff {step : Build State (CompileError Failure) Result}
    (stops : Build.StopsAt (fun _ => False) offence? kind step) (state : State) :
    (∃ result, (Build.outcome step state).1 = .ok result) ↔ offence? = none := by
  have ends := stops state
  cases outcome : (Build.outcome step state).1 with
  | ok result =>
    rw [outcome] at ends
    exact iff_of_true ⟨result, rfl⟩ ends.1
  | error error =>
    rw [outcome] at ends
    refine iff_of_false (by simp) ?_
    rintro rfl
    exact ends.elim (by simp) error.not_isRaised_by_none

/-- A step through a backend that does not fail has no error but its offence. -/
theorem eq_error_iff {step : Build State (CompileError Failure) Result}
    (stops : Build.StopsAt (fun _ => False) offence? kind step) (state : State)
    (error : CompileError Failure) :
    (Build.outcome step state).1 = .error error ↔
      ∃ offence, offence? = some offence ∧ error = offence.lift := by
  have ends := stops state
  cases outcome : (Build.outcome step state).1 with
  | ok result =>
    rw [outcome] at ends
    simp [ends.1]
  | error found =>
    rw [outcome] at ends
    obtain ⟨offence, rfl, rfl⟩ :=
      Option.map_eq_some_iff.mp (ends.resolve_right found.not_isRaised_by_none)
    simp [eq_comm]

end Build.StopsAt

end Stops

/-- The field whose group a context is, if it is one. -/
def Context.governing? : Context → Option String
  | .filter => none
  | .argument field _ => some field

namespace Backend.FailsBy

variable {State Failure Predicate : Type} {backend : Backend State Failure Predicate}
  {raises : Failure → Prop} {mayBeEmpty : Prop}

theorem stopsAt_compareMember (fails : backend.FailsBy raises mayBeEmpty) (field : String)
    (comparator : Comparator) (value : Member) :
    Build.StopsAt raises (value.offence? field) (fun _ => True)
      (FilterQuery.compareMember backend field comparator value) := by
  unfold Member.offence? FilterQuery.compareMember
  cases value.resolve with
  | error error => exact .fail (.literal field error)
  | ok found => exact .adapt (fails.relation comparator field found) fun _ raised => raised

theorem stopsAt_failNested (field : String) (restriction : Simple) :
    Build.StopsAt raises (some (restriction.nestedOffence field)) (fun _ => True)
      (failNested field restriction : Build State (CompileError Failure) Predicate) := by
  unfold failNested Simple.nestedOffence
  cases restriction.render? with
  | some text => exact .fail (.nestedRestriction field text)
  | none => exact .fail (.nestedFragment field)

-- By induction on the tree. Compiling a node and listing its restrictions go through the tree in
-- the same order, and the governing field of the list is that of the context.
mutual

theorem stopsAt_term (fails : backend.FailsBy raises mayBeEmpty) (context : Context) (term : Term)
    (filled : mayBeEmpty ∨ term.isFilled = true) :
    Build.StopsAt raises (firstOffence (term.restrictions context.governing?)) (fun _ => True)
      (term.compile backend context) := by
  match term with
  | .mk negated simple =>
    simp only [Term.compile, Term.restrictions]
    refine (fails.stopsAt_simple context simple filled).before fun predicate _ => ?_
    cases negated with
    | true => exact .adapt (fails.negation predicate) fun _ raised => raised
    | false => exact .pure trivial

theorem stopsAt_simple (fails : backend.FailsBy raises mayBeEmpty) (context : Context)
    (simple : Simple) (filled : mayBeEmpty ∨ simple.isFilled = true) :
    Build.StopsAt raises (firstOffence (simple.restrictions context.governing?)) (fun _ => True)
      (simple.compile backend context) := by
  match simple, context with
  | .missing, _ =>
    simp only [Simple.compile, Simple.restrictions, firstOffence_singleton]
    exact .fail .missingNode
  | .bare value, .filter =>
    simp only [Simple.compile, Simple.restrictions, firstOffence_singleton]
    exact .fail (.noComparator value.text)
  | .bare value, .argument field comparator =>
    simp only [Simple.compile, Simple.restrictions, firstOffence_singleton]
    exact fails.stopsAt_compareMember field comparator value
  | .compare field sign argument, .argument outer _ =>
    simp only [Simple.compile, Simple.restrictions, firstOffence_singleton]
    exact stopsAt_failNested outer (.compare field sign argument)
  | .compare field sign argument, .filter =>
    simp only [Simple.compile, Simple.restrictions, firstOffence_singleton, Context.governing?,
      Restriction.offence?]
    cases Comparator.ofSign? sign with
    | none => exact .fail (.unsupportedComparator sign)
    | some comparator =>
      cases argument with
      | none => exact .fail .missingArgument
      | some value => exact fails.stopsAt_compareMember field.text comparator value
  | .compareEach field sign values, .argument outer _ =>
    -- The restriction offends itself, so the group that it brings along is never reached.
    simp only [Simple.compile, Simple.restrictions, firstOffence_cons]
    exact stopsAt_failNested outer (.compareEach field sign values)
  | .compareEach field sign values, .filter =>
    simp only [Simple.compile, Simple.restrictions, firstOffence_cons, Context.governing?,
      Restriction.offence?]
    simp only [Simple.isFilled, Bool.and_eq_true, or_and_left] at filled
    cases Comparator.ofSign? sign with
    | none => exact .fail (.unsupportedComparator sign)
    | some comparator =>
      exact .join fails.conjunction filled.1
        (fails.stopsAt_expressionParts (.argument field.text comparator) values filled.2)
  | .group expression, context =>
    simp only [Simple.isFilled, Bool.and_eq_true, or_and_left] at filled
    simp only [Simple.compile, Simple.restrictions]
    exact .join fails.conjunction filled.1
      (fails.stopsAt_expressionParts context expression filled.2)

theorem stopsAt_expressionParts (fails : backend.FailsBy raises mayBeEmpty) (context : Context)
    (expression : List (List (List Term)))
    (filled : mayBeEmpty ∨ Expression.areFilled expression = true) :
    Build.StopsAt raises (firstOffence (Expression.restrictions context.governing? expression))
      (fun parts : List Predicate => parts.length = expression.length)
      (Expression.compileParts backend context expression) := by
  match expression with
  | [] =>
    simp only [Expression.compileParts]
    exact .pure rfl
  | sequence :: rest =>
    simp only [Expression.areFilled, Bool.and_eq_true, or_and_left] at filled
    obtain ⟨⟨nonempty, first⟩, others⟩ := filled
    simp only [Expression.compileParts, Expression.restrictions, firstOffence_append]
    rw [← bind_assoc]
    exact (Build.StopsAt.join fails.conjunction nonempty
      (fails.stopsAt_sequenceParts context sequence first)).cons
      (fails.stopsAt_expressionParts context rest others)

theorem stopsAt_sequenceParts (fails : backend.FailsBy raises mayBeEmpty) (context : Context)
    (sequence : List (List Term))
    (filled : mayBeEmpty ∨ Sequence.areFilled sequence = true) :
    Build.StopsAt raises (firstOffence (Sequence.restrictions context.governing? sequence))
      (fun parts : List Predicate => parts.length = sequence.length)
      (Sequence.compileParts backend context sequence) := by
  match sequence with
  | [] =>
    simp only [Sequence.compileParts]
    exact .pure rfl
  | factor :: rest =>
    simp only [Sequence.areFilled, Bool.and_eq_true, or_and_left] at filled
    obtain ⟨⟨nonempty, first⟩, others⟩ := filled
    simp only [Sequence.compileParts, Sequence.restrictions, firstOffence_append]
    rw [← bind_assoc]
    exact (Build.StopsAt.join fails.disjunction nonempty
      (fails.stopsAt_factorParts context factor first)).cons
      (fails.stopsAt_sequenceParts context rest others)

theorem stopsAt_factorParts (fails : backend.FailsBy raises mayBeEmpty) (context : Context)
    (factor : List Term) (filled : mayBeEmpty ∨ Factor.areFilled factor = true) :
    Build.StopsAt raises (firstOffence (Factor.restrictions context.governing? factor))
      (fun parts : List Predicate => parts.length = factor.length)
      (Factor.compileParts backend context factor) := by
  match factor with
  | [] =>
    simp only [Factor.compileParts]
    exact .pure rfl
  | term :: rest =>
    simp only [Factor.areFilled, Bool.and_eq_true, or_and_left] at filled
    simp only [Factor.compileParts, Factor.restrictions, firstOffence_append]
    exact (fails.stopsAt_term context term filled.1).cons
      (fails.stopsAt_factorParts context rest filled.2)

end

/-- A tree that is not empty stops at its first offence, unless the backend fails before. -/
theorem stopsAt_compileTree (fails : backend.FailsBy raises mayBeEmpty) {expression : Expression}
    (nonempty : expression ≠ [])
    (filled : mayBeEmpty ∨ Expression.areFilled expression = true) :
    Build.StopsAt raises (firstOffence (Expression.restrictions none expression)) (fun _ => True)
      (FilterQuery.compileTree backend expression) := by
  unfold FilterQuery.compileTree
  rw [if_neg (by simpa using nonempty)]
  exact .join fails.conjunction (.inr (by simpa using nonempty))
    (fails.stopsAt_expressionParts .filter expression filled)

end Backend.FailsBy

namespace Backend.Accepts

variable {State Failure Predicate : Type} {backend : Backend State Failure Predicate}

/-- With an operand to build from, such a backend fails by nothing. -/
theorem failsBy_none (accepts : backend.Accepts) : backend.FailsBy (fun _ => False) False where
  conjunction operands nonempty state _ failed :=
    (accepts.conjunction operands (nonempty.resolve_left id)).not_error state failed
  disjunction operands nonempty state _ failed :=
    (accepts.disjunction operands (nonempty.resolve_left id)).not_error state failed
  negation operand state _ failed := (accepts.negation operand).not_error state failed
  relation comparator field value state _ failed :=
    (accepts.relation comparator field value).not_error state failed

/-- The first offence of a tree is the error of its compilation, and without one it compiles. -/
theorem stopsAt_compileTree (accepts : backend.Accepts) {expression : Expression}
    (filled : expression.isFilled = true) :
    Build.StopsAt (fun _ => False) (firstOffence (Expression.restrictions none expression))
      (fun _ => True) (FilterQuery.compileTree backend expression) := by
  rw [Expression.isFilled, Bool.and_eq_true] at filled
  exact accepts.failsBy_none.stopsAt_compileTree (by simpa using filled.1) (.inr filled.2)

end Backend.Accepts

section Verdicts

/-- An error of the leftmost restriction of a filter that offends. -/
def Expression.IsLeftmostOffence (expression : Expression) (error : CompileError Empty) : Prop :=
  ∃ before offender after,
    Expression.restrictions none expression = before ++ offender :: after ∧
      (∀ restriction ∈ before, restriction.IsFit) ∧ offender.offence? = some error

variable {text : String} {expression : Expression}

theorem firstOffence_eq_none_iff_of_parse (parsed : parse text = .ok expression) :
    firstOffence (Expression.restrictions none expression) = none ↔
      ∀ restriction ∈ Expression.restrictions none expression, restriction.IsFit := by
  refine List.findSome?_eq_none_iff.trans (forall₂_congr fun restriction member => ?_)
  exact (restrictions_whole parsed restriction member).offence?_eq_none_iff

theorem firstOffence_eq_some_iff_of_parse (parsed : parse text = .ok expression)
    {error : CompileError Empty} :
    firstOffence (Expression.restrictions none expression) = some error ↔
      expression.IsLeftmostOffence error := by
  have whole := restrictions_whole parsed
  unfold firstOffence Expression.IsLeftmostOffence
  rw [List.findSome?_eq_some_iff]
  refine exists_congr fun before => exists_congr fun offender => exists_congr fun after => ?_
  refine and_congr_right fun split => ?_
  rw [and_comm]
  refine and_congr_left fun _ => forall₂_congr fun restriction member => ?_
  exact (whole restriction (by simp [split, member])).offence?_eq_none_iff

/-- The wording of an error that no backend raised does not depend on the backend. -/
theorem CompileError.message_lift {Failure₁ Failure₂ : Type} (describe₁ : Failure₁ → String)
    (describe₂ : Failure₂ → String) (error : CompileError Empty) :
    error.lift.message describe₁ = error.lift.message describe₂ := by
  cases error with
  | comparison _ _ _ failure | combination failure => nomatch failure
  | _ => rfl

/-- Documents can be built wherever there is an operand. -/
theorem Document.backend_accepts : Document.backend.Accepts where
  conjunction operands nonempty state := by
    simp [Document.backend, Document.combine, nonempty]
  disjunction operands nonempty state := by
    simp [Document.backend, Document.combine, nonempty]
  negation operand := .pure trivial
  relation comparator field value := by
    unfold Backend.relate
    split <;> exact .pure trivial

/-- Terms can always be built. -/
theorem Predicate.backend_accepts (name : String) : (Predicate.backend name none).Accepts where
  conjunction operands _ := .pure trivial
  disjunction operands _ := .pure trivial
  negation operand := .pure trivial
  relation comparator field value := by
    unfold Backend.relate
    split <;> exact .pure trivial

/-- How every backend that accepts ends on a text: with the same error, or with none. -/
theorem exists_stopsAt_compileText (text : String) :
    ∃ offence? : Option (CompileError Empty), ∀ {State Failure Predicate : Type}
      {backend : Backend State Failure Predicate}, backend.Accepts →
        Build.StopsAt (fun _ => False) offence? (fun _ => True) (compileText backend text) := by
  cases parsed : parse text with
  | error error =>
    refine ⟨some (.parse error), fun _ => ?_⟩
    unfold compileText
    rw [parsed]
    exact .fail (.parse error)
  | ok expression =>
    refine ⟨firstOffence (Expression.restrictions none expression), fun accepts => ?_⟩
    unfold compileText
    rw [parsed]
    exact accepts.stopsAt_compileTree (isFilled_of_parse parsed)

/-- Restrictions alone decide whether a filter compiles, and the leftmost one that offends decides
on the error. Restrictions are listed in the order of the text. Backends that build a predicate from
whatever operands there are, such as those of documents, clauses and terms, agree on every text:
either all of them compile it or all of them refuse it with the same words. -/
theorem leftmost_offence_decides (text : String) :
    (∀ expression, parse text = .ok expression →
      (((Expression.restrictions none expression).flatMap Restriction.members).Pairwise
        fun first second => first.position < second.position) ∧
      ∀ {State Failure Predicate : Type} (backend : Backend State Failure Predicate)
        (state : State), backend.Accepts →
        ((∃ predicate,
            (Build.outcome (compileTree backend expression) state).1 = .ok predicate) ↔
          ∀ restriction ∈ Expression.restrictions none expression, restriction.IsFit) ∧
        ∀ error, (Build.outcome (compileTree backend expression) state).1 = .error error ↔
          ∃ offence, expression.IsLeftmostOffence offence ∧ error = offence.lift) ∧
    (∀ {State₁ Failure₁ Predicate₁ State₂ Failure₂ Predicate₂ : Type}
      (first : Backend State₁ Failure₁ Predicate₁) (second : Backend State₂ Failure₂ Predicate₂)
      (describe₁ : Failure₁ → String) (describe₂ : Failure₂ → String)
      (state₁ : State₁) (state₂ : State₂), first.Accepts → second.Accepts →
      (∃ predicate₁ predicate₂,
        (Build.outcome (compileText first text) state₁).1 = .ok predicate₁ ∧
        (Build.outcome (compileText second text) state₂).1 = .ok predicate₂) ∨
      (∃ error₁ error₂,
        (Build.outcome (compileText first text) state₁).1 = .error error₁ ∧
        (Build.outcome (compileText second text) state₂).1 = .error error₂ ∧
        error₁.message describe₁ = error₂.message describe₂)) ∧
    Document.backend.Accepts ∧ (∀ options, (Sql.backend options).Accepts) ∧
    ∀ name, (Predicate.backend name none).Accepts := by
  refine ⟨fun expression parsed => ⟨members_in_order parsed, ?_⟩, ?_, Document.backend_accepts,
    Sql.backend_accepts, Predicate.backend_accepts⟩
  · intro State Failure Predicate backend state accepts
    have stops := accepts.stopsAt_compileTree (isFilled_of_parse parsed)
    rw [← firstOffence_eq_none_iff_of_parse parsed]
    simp only [← firstOffence_eq_some_iff_of_parse parsed]
    exact ⟨stops.exists_ok_iff state, stops.eq_error_iff state⟩
  · intro _ _ _ _ _ _ first second describe₁ describe₂ state₁ state₂ firstAccepts secondAccepts
    obtain ⟨offence?, stops⟩ := exists_stopsAt_compileText text
    cases offence? with
    | none =>
      obtain ⟨predicate₁, returned₁⟩ := ((stops firstAccepts).exists_ok_iff state₁).mpr rfl
      obtain ⟨predicate₂, returned₂⟩ := ((stops secondAccepts).exists_ok_iff state₂).mpr rfl
      exact .inl ⟨predicate₁, predicate₂, returned₁, returned₂⟩
    | some offence =>
      exact .inr ⟨offence.lift, offence.lift,
        ((stops firstAccepts).eq_error_iff state₁ _).mpr ⟨offence, rfl, rfl⟩,
        ((stops secondAccepts).eq_error_iff state₂ _).mpr ⟨offence, rfl, rfl⟩,
        offence.message_lift describe₁ describe₂⟩

/-- A restriction in the group of a field comes before a bare value outside of it. -/
theorem leftmost_offence_decides_nested :
    ∃ expression, parse "a=1 b=(-c=2) d" = .ok expression ∧
      expression.IsLeftmostOffence (.nestedRestriction "b" "c = 2") ∧
      (Build.outcome (compileTree Document.backend expression) ()).1 =
        .error (.nestedRestriction "b" "c = 2") := by
  have parsed : parse "a=1 b=(-c=2) d" = .ok [[
      [.mk false (.compare ⟨⟨.text, "a", 0⟩, []⟩ "=" (some ⟨⟨.integer, "1", 2⟩, []⟩))],
      [.mk false (.compareEach ⟨⟨.text, "b", 4⟩, []⟩ "=" [[
        [.mk true (.compare ⟨⟨.text, "c", 8⟩, []⟩ "=" (some ⟨⟨.integer, "2", 10⟩, []⟩))]]])],
      [.mk false (.bare ⟨⟨.text, "d", 13⟩, []⟩)]]] := rfl
  have leftmost : Expression.IsLeftmostOffence _ (.nestedRestriction "b" "c = 2") :=
    (firstOffence_eq_some_iff_of_parse parsed).mp rfl
  obtain ⟨-, decides⟩ := (leftmost_offence_decides "a=1 b=(-c=2) d").1 _ parsed
  have failure := (decides Document.backend () Document.backend_accepts).2
    (.nestedRestriction "b" "c = 2")
  exact ⟨_, parsed, leftmost, failure.mpr ⟨_, leftmost, rfl⟩⟩

end Verdicts

end FilterQuery
