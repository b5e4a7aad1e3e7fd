import FilterQuery.Proofs.Compile.Offences

/-!
# Restrictions that cannot be quoted

A restriction in the group of a field is refused in words that quote it. In a tree put together by
hand a part of it may be missing, and then there is nothing to quote: the compilation breaks off.

`breaks_off_iff_fragment` says which trees a compilation breaks off on. The backend may fail before
the restriction is reached, so for a given backend it says where a compilation can break off; the
backend of terms, which never fails, breaks off on every such tree.
-/

namespace FilterQuery

section Missing

/-- The condition itself is missing, or what its field is compared with. -/
def Restriction.IsBroken (restriction : Restriction) : Prop :=
  restriction.condition = .missing ∨
    ∃ field sign, restriction.condition = .compare field sign none

/-- Something is missing from some of the restrictions. -/
def AnyBroken (restrictions : List Restriction) : Prop :=
  ∃ restriction ∈ restrictions, restriction.IsBroken

theorem anyBroken_singleton {restriction : Restriction} :
    AnyBroken [restriction] ↔ restriction.IsBroken := by
  simp [AnyBroken]

theorem anyBroken_append {first second : List Restriction} :
    AnyBroken (first ++ second) ↔ AnyBroken first ∨ AnyBroken second := by
  simp [AnyBroken, or_and_right, exists_or]

theorem not_anyBroken_nil : ¬ AnyBroken [] := by
  simp [AnyBroken]

-- By induction on the tree: what is missing somewhere has no written form, and everything else is
-- put together from written forms.
mutual

theorem Term.render?_eq_none_iff (governing : Option String) (term : Term) :
    term.render? = none ↔ AnyBroken (term.restrictions governing) := by
  match term with
  | .mk true simple =>
    rw [Term.render?, Term.restrictions, Option.map_eq_none_iff]
    exact simple.render?_eq_none_iff governing
  | .mk false simple =>
    rw [Term.render?, Term.restrictions]
    exact simple.render?_eq_none_iff governing

theorem Simple.render?_eq_none_iff (governing : Option String) (simple : Simple) :
    simple.render? = none ↔ AnyBroken (simple.restrictions governing) := by
  match simple with
  | .missing | .bare _ | .compare _ _ none | .compare _ _ (some _) =>
    simp [Simple.render?, Simple.restrictions, anyBroken_singleton, Restriction.IsBroken]
  | .compareEach field sign values =>
    have whole : ¬ Restriction.IsBroken ⟨governing, .compareEach field sign values⟩ := by
      simp [Restriction.IsBroken]
    rw [Simple.render?, Simple.restrictions, Option.map_eq_none_iff, ← List.singleton_append,
      anyBroken_append, anyBroken_singleton, or_iff_right whole]
    exact Expression.renderParts?_eq_none_iff (some field.text) values
  | .group expression =>
    rw [Simple.render?, Simple.restrictions, Option.map_eq_none_iff]
    exact Expression.renderParts?_eq_none_iff governing expression

theorem Expression.renderParts?_eq_none_iff (governing : Option String)
    (expression : List (List (List Term))) :
    Expression.renderParts? expression = none ↔
      AnyBroken (Expression.restrictions governing expression) := by
  match expression with
  | [] => simp [Expression.renderParts?, Expression.restrictions, not_anyBroken_nil]
  | sequence :: rest =>
    rw [Expression.restrictions, anyBroken_append,
      ← Sequence.renderParts?_eq_none_iff governing sequence,
      ← Expression.renderParts?_eq_none_iff governing rest, Expression.renderParts?]
    cases Sequence.renderParts? sequence <;> cases Expression.renderParts? rest <;> simp

theorem Sequence.renderParts?_eq_none_iff (governing : Option String)
    (sequence : List (List Term)) :
    Sequence.renderParts? sequence = none ↔
      AnyBroken (Sequence.restrictions governing sequence) := by
  match sequence with
  | [] => simp [Sequence.renderParts?, Sequence.restrictions, not_anyBroken_nil]
  | factor :: rest =>
    rw [Sequence.restrictions, anyBroken_append,
      ← Factor.renderParts?_eq_none_iff governing factor,
      ← Sequence.renderParts?_eq_none_iff governing rest, Sequence.renderParts?]
    cases Factor.renderParts? factor <;> cases Sequence.renderParts? rest <;> simp

theorem Factor.renderParts?_eq_none_iff (governing : Option String) (factor : List Term) :
    Factor.renderParts? factor = none ↔ AnyBroken (Factor.restrictions governing factor) := by
  match factor with
  | [] => simp [Factor.renderParts?, Factor.restrictions, not_anyBroken_nil]
  | term :: rest =>
    rw [Factor.restrictions, anyBroken_append, ← term.render?_eq_none_iff governing,
      ← Factor.renderParts?_eq_none_iff governing rest, Factor.renderParts?]
    cases term.render? <;> cases Factor.renderParts? rest <;> simp

end

-- A restriction that is compared with a group is listed with what the group holds behind it.
mutual

theorem Term.mem_restrictions_of_mem {governing : Option String} {term : Term}
    {outer inner : Restriction} (listed : outer ∈ term.restrictions governing)
    (within : inner ∈ outer.condition.restrictions outer.governing) :
    inner ∈ term.restrictions governing := by
  match term with
  | .mk _ simple =>
    rw [Term.restrictions] at listed ⊢
    exact simple.mem_restrictions_of_mem listed within

theorem Simple.mem_restrictions_of_mem {governing : Option String} {simple : Simple}
    {outer inner : Restriction} (listed : outer ∈ simple.restrictions governing)
    (within : inner ∈ outer.condition.restrictions outer.governing) :
    inner ∈ simple.restrictions governing := by
  match simple with
  | .missing | .bare _ | .compare _ _ _ =>
    rw [Simple.restrictions, List.mem_singleton] at listed
    subst listed
    exact within
  | .compareEach field sign values =>
    rw [Simple.restrictions, List.mem_cons] at listed
    rcases listed with rfl | listed
    · exact within
    · rw [Simple.restrictions]
      exact List.mem_cons_of_mem _ (Expression.mem_restrictions_of_mem listed within)
  | .group expression =>
    rw [Simple.restrictions] at listed ⊢
    exact Expression.mem_restrictions_of_mem listed within

theorem Expression.mem_restrictions_of_mem {governing : Option String}
    {expression : List (List (List Term))} {outer inner : Restriction}
    (listed : outer ∈ Expression.restrictions governing expression)
    (within : inner ∈ outer.condition.restrictions outer.governing) :
    inner ∈ Expression.restrictions governing expression := by
  match expression with
  | [] => simp [Expression.restrictions] at listed
  | sequence :: rest =>
    rw [Expression.restrictions, List.mem_append] at listed ⊢
    exact listed.imp (Sequence.mem_restrictions_of_mem · within)
      (Expression.mem_restrictions_of_mem · within)

theorem Sequence.mem_restrictions_of_mem {governing : Option String}
    {sequence : List (List Term)} {outer inner : Restriction}
    (listed : outer ∈ Sequence.restrictions governing sequence)
    (within : inner ∈ outer.condition.restrictions outer.governing) :
    inner ∈ Sequence.restrictions governing sequence := by
  match sequence with
  | [] => simp [Sequence.restrictions] at listed
  | factor :: rest =>
    rw [Sequence.restrictions, List.mem_append] at listed ⊢
    exact listed.imp (Factor.mem_restrictions_of_mem · within)
      (Sequence.mem_restrictions_of_mem · within)

theorem Factor.mem_restrictions_of_mem {governing : Option String} {factor : List Term}
    {outer inner : Restriction} (listed : outer ∈ Factor.restrictions governing factor)
    (within : inner ∈ outer.condition.restrictions outer.governing) :
    inner ∈ Factor.restrictions governing factor := by
  match factor with
  | [] => simp [Factor.restrictions] at listed
  | term :: rest =>
    rw [Factor.restrictions, List.mem_append] at listed ⊢
    exact listed.imp (term.mem_restrictions_of_mem · within)
      (Factor.mem_restrictions_of_mem · within)

end

end Missing

section Fragments

theorem Backend.failsBy_some {State Failure Predicate : Type}
    (backend : Backend State Failure Predicate) : backend.FailsBy (fun _ => True) True := by
  constructor <;> intros <;> trivial

/-- The backend of terms never fails, not even without operands. -/
theorem Predicate.backend_failsBy_none (name : String) :
    (Predicate.backend name none).FailsBy (fun _ => False) True where
  conjunction _ _ _ _ failed := by cases failed
  disjunction _ _ _ _ failed := by cases failed
  negation _ _ _ failed := by cases failed
  relation comparator field value state failure failed := by
    unfold Backend.relate at failed
    split at failed <;> cases failed

/-- The leftmost restriction that offends stands in the group of a field, and a part of it is
missing. -/
def Expression.HasFragmentFirst (expression : Expression) (field : String) : Prop :=
  ∃ before condition after,
    Expression.restrictions none expression = before ++ ⟨some field, condition⟩ :: after ∧
    (∀ restriction ∈ before, restriction.offence? = none) ∧
    (∃ sign, Restriction.sign? ⟨some field, condition⟩ = some sign) ∧
    AnyBroken (condition.restrictions (some field))

/-- The one offence that a restriction with a missing part has in the group of a field. -/
theorem Restriction.offence?_eq_nestedFragment_iff {restriction : Restriction} {field : String} :
    restriction.offence? = some (.nestedFragment field) ↔
      restriction.governing = some field ∧ (∃ sign, restriction.sign? = some sign) ∧
        AnyBroken (restriction.condition.restrictions (some field)) := by
  obtain ⟨governing, condition⟩ := restriction
  have literal : ∀ (outer : String) (value : Member),
      value.offence? outer ≠ some (.nestedFragment field) := by
    intro outer value
    unfold Member.offence?
    split <;> simp
  have nested : ∀ (outer : String) (simple : Simple),
      some (simple.nestedOffence outer) = some (CompileError.nestedFragment field) ↔
        outer = field ∧ AnyBroken (simple.restrictions (some field)) := by
    intro outer simple
    rw [← simple.render?_eq_none_iff]
    unfold Simple.nestedOffence
    cases simple.render? <;> simp
  match governing, condition with
  | _, .missing | _, .group _ | none, .bare _ => simp [offence?, sign?]
  | some outer, .bare value => simp [offence?, sign?, literal]
  | none, .compare _ sign argument =>
    cases known : Comparator.ofSign? sign <;> cases argument <;>
      simp [offence?, known, literal]
  | none, .compareEach _ sign _ =>
    cases known : Comparator.ofSign? sign <;> simp [offence?, known]
  | some outer, .compare _ _ _ | some outer, .compareEach _ _ _ =>
    simp [offence?, sign?, nested]

theorem firstOffence_eq_nestedFragment_iff {expression : Expression} {field : String} :
    firstOffence (Expression.restrictions none expression) = some (.nestedFragment field) ↔
      expression.HasFragmentFirst field := by
  unfold firstOffence Expression.HasFragmentFirst
  rw [List.findSome?_eq_some_iff]
  constructor
  · rintro ⟨before, ⟨governing, condition⟩, after, split, offends, fit⟩
    obtain ⟨rfl, signed, broken⟩ := Restriction.offence?_eq_nestedFragment_iff.mp offends
    exact ⟨before, condition, after, split, fit, signed, broken⟩
  · rintro ⟨before, condition, after, split, fit, signed, broken⟩
    exact ⟨before, ⟨some field, condition⟩, after, split,
      Restriction.offence?_eq_nestedFragment_iff.mpr ⟨rfl, signed, broken⟩, fit⟩

/-- What is missing from a fragment is missing from the tree. -/
theorem Expression.HasFragmentFirst.anyBroken {expression : Expression} {field : String}
    (fragment : expression.HasFragmentFirst field) :
    AnyBroken (Expression.restrictions none expression) := by
  obtain ⟨before, condition, after, split, -, -, part, within, broken⟩ := fragment
  have listed : ⟨some field, condition⟩ ∈ Expression.restrictions none expression := by
    rw [split]
    exact List.mem_append_right _ List.mem_cons_self
  exact ⟨part, Expression.mem_restrictions_of_mem listed within, broken⟩

/-- Nothing is missing from a filter that was read from text. -/
theorem not_anyBroken_of_parse {text : String} {expression : Expression}
    (parsed : parse text = .ok expression) :
    ¬ AnyBroken (Expression.restrictions none expression) := by
  rintro ⟨restriction, listed, broken⟩
  cases restrictions_whole parsed restriction listed <;> simp [Restriction.IsBroken] at broken

theorem CompileError.eq_of_lift_eq_nestedFragment {Failure : Type} {error : CompileError Empty}
    {field : String} (lifted : error.lift = (.nestedFragment field : CompileError Failure)) :
    error = .nestedFragment field := by
  cases error with
  | nestedFragment other =>
    obtain rfl : other = field := by simpa [CompileError.lift] using lifted
    rfl
  | comparison _ _ _ failure | combination failure => nomatch failure
  | _ => simp [CompileError.lift] at lifted

/-- A compilation breaks off on fragments only. -/
theorem hasFragmentFirst_of_outcome {State Failure Predicate : Type}
    {backend : Backend State Failure Predicate} {state : State} {expression : Expression}
    {field : String}
    (broke : (Build.outcome (compileTree backend expression) state).1 =
      .error (.nestedFragment field)) :
    expression.HasFragmentFirst field := by
  have nonempty : expression ≠ [] := by
    rintro rfl
    cases broke
  have stops := backend.failsBy_some.stopsAt_compileTree nonempty (.inl trivial) state
  rw [broke] at stops
  rcases stops with offends | raised
  · obtain ⟨offence, found, lifted⟩ := Option.map_eq_some_iff.mp offends
    obtain rfl := CompileError.eq_of_lift_eq_nestedFragment lifted
    exact firstOffence_eq_nestedFragment_iff.mp found
  · cases raised

/-- Where the backend does not fail, a compilation breaks off on every fragment. -/
theorem outcome_of_hasFragmentFirst {expression : Expression} {field : String}
    (fragment : expression.HasFragmentFirst field) (name : String) :
    (Build.outcome (compileTree (Predicate.backend name none) expression) ()).1 =
      .error (.nestedFragment field) := by
  have offends := firstOffence_eq_nestedFragment_iff.mpr fragment
  have nonempty : expression ≠ [] := by
    rintro rfl
    cases offends
  have stops :=
    (Predicate.backend_failsBy_none name).stopsAt_compileTree nonempty (.inl trivial)
  exact (stops.eq_error_iff () _).mpr ⟨_, offends, rfl⟩

/-- Where a compilation breaks off. Through some backend it does so exactly on the trees whose
leftmost offending restriction stands in the group of a field and lacks a part, and the backend of
terms breaks off on all of them. So a compilation breaks off on no tree that has all its parts, in
particular on none that was read from text. -/
theorem breaks_off_iff_fragment (expression : Expression) (field : String) :
    ((∃ (State Failure Predicate : Type) (backend : Backend State Failure Predicate)
        (state : State),
        (Build.outcome (compileTree backend expression) state).1 =
          .error (.nestedFragment field)) ↔
      expression.HasFragmentFirst field) ∧
    (∀ name, (Build.outcome (compileTree (Predicate.backend name none) expression) ()).1 =
        .error (.nestedFragment field) ↔ expression.HasFragmentFirst field) ∧
    (expression.HasFragmentFirst field →
      AnyBroken (Expression.restrictions none expression)) ∧
    ∀ text, parse text = .ok expression → ¬ expression.HasFragmentFirst field := by
  refine ⟨⟨?_, fun fragment => ?_⟩, fun name => ⟨hasFragmentFirst_of_outcome, fun fragment => ?_⟩,
    Expression.HasFragmentFirst.anyBroken, fun text parsed fragment => ?_⟩
  · rintro ⟨State, Failure, Predicate, backend, state, broke⟩
    exact hasFragmentFirst_of_outcome broke
  · exact ⟨_, _, _, Predicate.backend "" none, (), outcome_of_hasFragmentFirst fragment ""⟩
  · exact outcome_of_hasFragmentFirst fragment name
  · exact not_anyBroken_of_parse parsed fragment.anyBroken

/-- The comparison `b =` without an argument, in a group that `a` is compared with. Outside of a
group the same comparison has an error of its own. -/
theorem breaks_off_on_missing_argument :
    (Build.outcome (compileTree (Predicate.backend "recording" none)
      [[[.mk false (.compareEach ⟨⟨.text, "a", 0⟩, []⟩ "="
        [[[.mk false (.compare ⟨⟨.text, "b", 0⟩, []⟩ "=" none)]]])]]]) ()).1 =
        .error (.nestedFragment "a") ∧
    (Build.outcome (compileTree (Predicate.backend "recording" none)
      [[[.mk false (.compare ⟨⟨.text, "b", 0⟩, []⟩ "=" none)]]]) ()).1 =
        .error .missingArgument :=
  ⟨rfl, rfl⟩

/-- A condition is missing deep inside a group, behind a value that is compared with `a`. -/
theorem breaks_off_iff_fragment_deep :
    ∃ expression : Expression,
      Expression.HasFragmentFirst expression "a" ∧
      (Build.outcome (compileTree (Predicate.backend "recording" none) expression) ()).1 =
        .error (.nestedFragment "a") ∧
      AnyBroken (Expression.restrictions none expression) := by
  let expression : Expression :=
    [[[.mk false (.compareEach ⟨⟨.text, "a", 0⟩, []⟩ "="
      [[[.mk false (.bare ⟨⟨.integer, "1", 0⟩, []⟩),
        .mk true (.compareEach ⟨⟨.text, "b", 0⟩, []⟩ "<" [[[.mk false .missing]]])]]])]]]
  obtain ⟨-, terms, broken, -⟩ := breaks_off_iff_fragment expression "a"
  have fragment := (terms "recording").mp rfl
  exact ⟨expression, fragment, (terms "recording").mpr fragment, broken fragment⟩

end Fragments

end FilterQuery
