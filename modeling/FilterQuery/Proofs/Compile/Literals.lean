import FilterQuery.Proofs.Compile.Completeness

/-!
# Trees that differ in literals

Two trees are alike when they differ in nothing but the literals that fields are compared with, and
these literals call for the same operations. Alike trees are compiled in lockstep: every literal is
resolved and handed to the backend, and nothing else depends on it.
-/

namespace FilterQuery

/-- The operation that an equality with a value calls for. -/
inductive Dispatch where
  | prefixSearch
  | suffixSearch
  | comparison
deriving DecidableEq, Repr

/-- The operation that a form of wildcard calls for. -/
def WildcardForm.dispatch : WildcardForm → Dispatch
  | .startsWith _ => .prefixSearch
  | .endsWith _ => .suffixSearch
  | .plain => .comparison

/-- Two members that both have values which, where the sign is that of equality, call for the same
operation. -/
def Member.DispatchAlike (sign : String) (first second : Member) : Prop :=
  ∃ value₁ value₂, first.resolve = .ok value₁ ∧ second.resolve = .ok value₂ ∧
    (sign = Comparator.equal.sign →
      value₁.wildcardForm.dispatch = value₂.wildcardForm.dispatch)

mutual

/-- Terms that differ in literals only. `governing` is the sign that sets a field against the bare
values of the group in which the terms stand, if they stand in one. -/
inductive Term.Alike : (governing : Option String) → Term → Term → Prop where
  | mk {governing : Option String} {negated : Bool} {simple₁ simple₂ : Simple} :
      Simple.Alike governing simple₁ simple₂ →
      Term.Alike governing (.mk negated simple₁) (.mk negated simple₂)

/-- Conditions that differ in literals only. A bare value outside of groups that a field is compared
with is no literal of an argument. -/
inductive Simple.Alike : (governing : Option String) → Simple → Simple → Prop where
  | missing {governing : Option String} : Simple.Alike governing .missing .missing
  | bare {value₁ value₂ : Member} : value₁.text = value₂.text →
      Simple.Alike none (.bare value₁) (.bare value₂)
  | value {sign : String} {value₁ value₂ : Member} : value₁.DispatchAlike sign value₂ →
      Simple.Alike (some sign) (.bare value₁) (.bare value₂)
  | compareMissing {governing : Option String} {field₁ field₂ : Member} {sign : String} :
      field₁.text = field₂.text →
      Simple.Alike governing (.compare field₁ sign none) (.compare field₂ sign none)
  | compare {governing : Option String} {field₁ field₂ argument₁ argument₂ : Member}
      {sign : String} : field₁.text = field₂.text → argument₁.DispatchAlike sign argument₂ →
      Simple.Alike governing (.compare field₁ sign (some argument₁))
        (.compare field₂ sign (some argument₂))
  | compareEach {governing : Option String} {field₁ field₂ : Member} {sign : String}
      {values₁ values₂ : List (List (List Term))} : field₁.text = field₂.text →
      Expression.Alike (some sign) values₁ values₂ →
      Simple.Alike governing (.compareEach field₁ sign values₁) (.compareEach field₂ sign values₂)
  | group {governing : Option String} {expression₁ expression₂ : List (List (List Term))} :
      Expression.Alike governing expression₁ expression₂ →
      Simple.Alike governing (.group expression₁) (.group expression₂)

/-- Expressions that differ in literals only. -/
inductive Expression.Alike : (governing : Option String) → List (List (List Term)) →
    List (List (List Term)) → Prop where
  | nil {governing : Option String} : Expression.Alike governing [] []
  | cons {governing : Option String} {sequence₁ sequence₂ : List (List Term)}
      {rest₁ rest₂ : List (List (List Term))} : Sequence.Alike governing sequence₁ sequence₂ →
      Expression.Alike governing rest₁ rest₂ →
      Expression.Alike governing (sequence₁ :: rest₁) (sequence₂ :: rest₂)

/-- Sequences that differ in literals only. -/
inductive Sequence.Alike : (governing : Option String) → List (List Term) →
    List (List Term) → Prop where
  | nil {governing : Option String} : Sequence.Alike governing [] []
  | cons {governing : Option String} {factor₁ factor₂ : List Term}
      {rest₁ rest₂ : List (List Term)} : Factor.Alike governing factor₁ factor₂ →
      Sequence.Alike governing rest₁ rest₂ →
      Sequence.Alike governing (factor₁ :: rest₁) (factor₂ :: rest₂)

/-- Factors that differ in literals only. -/
inductive Factor.Alike : (governing : Option String) → List Term → List Term → Prop where
  | nil {governing : Option String} : Factor.Alike governing [] []
  | cons {governing : Option String} {term₁ term₂ : Term} {rest₁ rest₂ : List Term} :
      Term.Alike governing term₁ term₂ → Factor.Alike governing rest₁ rest₂ →
      Factor.Alike governing (term₁ :: rest₁) (term₂ :: rest₂)

end

/-- The contexts in which a sign governs the bare values. -/
inductive Context.GovernedBy : Context → Option String → Prop where
  | filter : Context.GovernedBy .filter none
  | argument {field sign : String} {comparator : Comparator} :
      Comparator.ofSign? sign = some comparator →
      Context.GovernedBy (.argument field comparator) (some sign)

section Leaves

theorem Member.DispatchAlike.resolves {sign : String} {first second : Member}
    (alike : first.DispatchAlike sign second) : ∃ value, first.resolve = .ok value := by
  obtain ⟨value, -, resolved, -⟩ := alike
  exact ⟨value, resolved⟩

mutual

theorem Term.Alike.resolve {governing : Option String} {context : Context}
    (governed : context.GovernedBy governing) {term₁ term₂ : Term}
    (alike : Term.Alike governing term₁ term₂) :
    ∀ leaf ∈ term₁.leaves context, leaf.Resolves := by
  match alike with
  | .mk inner => exact inner.resolve governed

theorem Simple.Alike.resolve {governing : Option String} {context : Context}
    (governed : context.GovernedBy governing) {simple₁ simple₂ : Simple}
    (alike : Simple.Alike governing simple₁ simple₂) :
    ∀ leaf ∈ simple₁.leaves context, leaf.Resolves := by
  intro leaf member
  match alike, governed with
  | .missing, _ => cases member
  | .bare _, .filter => cases member
  | .value values, .argument _ =>
    obtain rfl := List.mem_singleton.mp member
    exact values.resolves
  | .compareMissing _, .argument _ | .compare _ _, .argument _ =>
    simp [Simple.leaves] at member
  | .compareEach _ _, .argument _ =>
    simp [Simple.leaves] at member
  | .compareMissing _, .filter =>
    simp [Simple.leaves] at member
  | @Simple.Alike.compare _ _ _ _ _ sign same values, .filter =>
    cases known : Comparator.ofSign? sign with
    | none => simp [Simple.leaves, known] at member
    | some comparator =>
      simp only [Simple.leaves, known] at member
      obtain rfl := List.mem_singleton.mp member
      exact values.resolves
  | @Simple.Alike.compareEach _ _ _ sign _ _ same values, .filter =>
    cases known : Comparator.ofSign? sign with
    | none => simp [Simple.leaves, known] at member
    | some comparator =>
      simp only [Simple.leaves, known] at member
      exact values.resolve (.argument known) leaf member
  | .group inner, governed => exact inner.resolve governed leaf member

theorem Expression.Alike.resolve {governing : Option String} {context : Context}
    (governed : context.GovernedBy governing) {expression₁ expression₂ : List (List (List Term))}
    (alike : Expression.Alike governing expression₁ expression₂) :
    ∀ leaf ∈ Expression.leaves context expression₁, leaf.Resolves := by
  match alike with
  | .nil => exact fun _ member => nomatch member
  | .cons head tail =>
    exact List.forall_mem_append.mpr ⟨head.resolve governed, tail.resolve governed⟩

theorem Sequence.Alike.resolve {governing : Option String} {context : Context}
    (governed : context.GovernedBy governing) {sequence₁ sequence₂ : List (List Term)}
    (alike : Sequence.Alike governing sequence₁ sequence₂) :
    ∀ leaf ∈ Sequence.leaves context sequence₁, leaf.Resolves := by
  match alike with
  | .nil => exact fun _ member => nomatch member
  | .cons head tail =>
    exact List.forall_mem_append.mpr ⟨head.resolve governed, tail.resolve governed⟩

theorem Factor.Alike.resolve {governing : Option String} {context : Context}
    (governed : context.GovernedBy governing) {factor₁ factor₂ : List Term}
    (alike : Factor.Alike governing factor₁ factor₂) :
    ∀ leaf ∈ Factor.leaves context factor₁, leaf.Resolves := by
  match alike with
  | .nil => exact fun _ member => nomatch member
  | .cons head tail =>
    exact List.forall_mem_append.mpr ⟨head.resolve governed, tail.resolve governed⟩

end

end Leaves

namespace Correspondence

variable {State₁ State₂ Failure₁ Failure₂ Predicate₁ Predicate₂ : Type}

/-- Two backends whose connectives match and whose relations match on values that call for the same
operation. All errors match. -/
structure LiteralsApart
    (matching : Correspondence State₁ State₂ (CompileError Failure₁) (CompileError Failure₂))
    (predicates : Predicate₁ → Predicate₂ → Prop) (first : Backend State₁ Failure₁ Predicate₁)
    (second : Backend State₂ Failure₂ Predicate₂) : Prop
    extends matching.Connectives predicates first second where
  member : ∀ {sign comparator field value₁ value₂}, Comparator.ofSign? sign = some comparator →
    Member.DispatchAlike sign value₁ value₂ →
    matching.Steps predicates (compareMember first field comparator value₁)
      (compareMember second field comparator value₂)
  errors : ∀ error₁ error₂, matching.errors error₁ error₂

namespace LiteralsApart

variable {first : Backend State₁ Failure₁ Predicate₁} {second : Backend State₂ Failure₂ Predicate₂}
  {matching : Correspondence State₁ State₂ (CompileError Failure₁) (CompileError Failure₂)}
  {predicates : Predicate₁ → Predicate₂ → Prop}

theorem failNested (apart : matching.LiteralsApart predicates first second)
    (field₁ field₂ : String) (simple₁ simple₂ : Simple) :
    matching.Steps predicates (FilterQuery.failNested field₁ simple₁)
      (FilterQuery.failNested field₂ simple₂) := by
  unfold FilterQuery.failNested
  cases simple₁.render? with
  | some text₁ | none =>
    cases simple₂.render? with
    | some text₂ | none => exact .throw (apart.errors _ _)

mutual

theorem term (apart : matching.LiteralsApart predicates first second)
    {governing : Option String} {context : Context} (governed : context.GovernedBy governing)
    {term₁ term₂ : Term} (alike : Term.Alike governing term₁ term₂) :
    matching.Steps predicates (term₁.compile first context) (term₂.compile second context) := by
  match alike with
  | .mk inner => exact term_steps apart.toConnectives _ (apart.simple governed inner)

theorem simple (apart : matching.LiteralsApart predicates first second)
    {governing : Option String} {context : Context} (governed : context.GovernedBy governing)
    {simple₁ simple₂ : Simple} (alike : Simple.Alike governing simple₁ simple₂) :
    matching.Steps predicates (simple₁.compile first context)
      (simple₂.compile second context) := by
  match alike, governed with
  | .missing, _ =>
    simp only [Simple.compile]
    exact .throw (apart.errors _ _)
  | .bare _, .filter =>
    simp only [Simple.compile]
    exact .throw (apart.errors _ _)
  | .value values, .argument known =>
    simp only [Simple.compile]
    exact apart.member known values
  | .compareMissing _, .argument _ | .compare _ _, .argument _ | .compareEach _ _, .argument _ =>
    simp only [Simple.compile]
    exact apart.failNested _ _ _ _
  | @Simple.Alike.compareMissing _ _ _ sign same, .filter =>
    simp only [Simple.compile]
    cases Comparator.ofSign? sign with
    | none => exact .throw (apart.errors _ _)
    | some comparator => exact .throw (apart.errors _ _)
  | @Simple.Alike.compare _ _ _ _ _ sign same values, .filter =>
    simp only [Simple.compile, same]
    cases known : Comparator.ofSign? sign with
    | none => exact .throw (apart.errors _ _)
    | some comparator => exact apart.member known values
  | @Simple.Alike.compareEach _ _ _ sign _ _ same values, .filter =>
    simp only [Simple.compile, same]
    cases known : Comparator.ofSign? sign with
    | none => exact .throw (apart.errors _ _)
    | some comparator =>
      exact expression_steps apart.toConnectives (apart.expressionParts (.argument known) values)
  | .group inner, governed =>
    simp only [Simple.compile]
    exact expression_steps apart.toConnectives (apart.expressionParts governed inner)

theorem expressionParts (apart : matching.LiteralsApart predicates first second)
    {governing : Option String} {context : Context} (governed : context.GovernedBy governing)
    {expression₁ expression₂ : List (List (List Term))}
    (alike : Expression.Alike governing expression₁ expression₂) :
    matching.Steps (List.Forall₂ predicates) (Expression.compileParts first context expression₁)
      (Expression.compileParts second context expression₂) := by
  match alike with
  | .nil =>
    simp only [Expression.compileParts]
    exact .pure .nil
  | .cons head tail =>
    exact expression_cons_steps apart.toConnectives (apart.sequenceParts governed head)
      (apart.expressionParts governed tail)

theorem sequenceParts (apart : matching.LiteralsApart predicates first second)
    {governing : Option String} {context : Context} (governed : context.GovernedBy governing)
    {sequence₁ sequence₂ : List (List Term)}
    (alike : Sequence.Alike governing sequence₁ sequence₂) :
    matching.Steps (List.Forall₂ predicates) (Sequence.compileParts first context sequence₁)
      (Sequence.compileParts second context sequence₂) := by
  match alike with
  | .nil =>
    simp only [Sequence.compileParts]
    exact .pure .nil
  | .cons head tail =>
    exact sequence_cons_steps apart.toConnectives (apart.factorParts governed head)
      (apart.sequenceParts governed tail)

theorem factorParts (apart : matching.LiteralsApart predicates first second)
    {governing : Option String} {context : Context} (governed : context.GovernedBy governing)
    {factor₁ factor₂ : List Term} (alike : Factor.Alike governing factor₁ factor₂) :
    matching.Steps (List.Forall₂ predicates) (Factor.compileParts first context factor₁)
      (Factor.compileParts second context factor₂) := by
  match alike with
  | .nil =>
    simp only [Factor.compileParts]
    exact .pure .nil
  | .cons head tail =>
    exact factor_cons_steps (apart.term governed head) (apart.factorParts governed tail)

end

/-- Alike trees are compiled in lockstep. -/
theorem compileTree (apart : matching.LiteralsApart predicates first second)
    {expression₁ expression₂ : Expression}
    (alike : Expression.Alike none expression₁ expression₂) :
    matching.Steps predicates (FilterQuery.compileTree first expression₁)
      (FilterQuery.compileTree second expression₂) := by
  have parts := expression_steps apart.toConnectives (apart.expressionParts .filter alike)
  unfold FilterQuery.compileTree
  match alike with
  | .nil => exact .throw (apart.errors _ _)
  | .cons _ _ => exact parts

end LiteralsApart

end Correspondence

end FilterQuery
