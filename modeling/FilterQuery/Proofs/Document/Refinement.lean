import FilterQuery.Document.Typed
import FilterQuery.Proofs.Compile.Lockstep
import FilterQuery.Proofs.Document.Keys

/-!
# Query documents with and without types

A document type changes nothing about a query document but the values that fields are compared with.
`Retyped` says so of two documents and of the leaves that both are built from, and the two backends
keep it in lockstep. A document type can only take filters away: those with a value that has no
counterpart in the type of its field.
-/

namespace FilterQuery.Document

/-- A value as a piece of data of the type that a field has. A field that the document type does not
have takes the value as it is. -/
def fieldDatum (index : FieldIndex) (field : String) (value : Value) :
    Except CoercionFault Datum :=
  match index.find? field with
  | some type => type.elementType.coerce value
  | none => .ok value.datum

theorem fieldDatum_of_unknown {index : FieldIndex} {field : String}
    (unknown : index.find? field = none) (value : Value) :
    fieldDatum index field value = .ok value.datum := by
  rw [fieldDatum, unknown]

/-- A field is set against a value as it stands, and not searched for a part of it. -/
def IsComparison (comparator : Comparator) (value : Value) : Prop :=
  comparator = .equal → value.wildcardForm = .plain

mutual

/-- Two documents for the same leaves, one without and one with types. Keys, operators, arrays,
nesting and searches are the same. Where the first one has the value of a leaf, the second one has
that value in the type of the leaf's field. -/
inductive Retyped (index : FieldIndex) : List Leaf → Datum → Datum → Prop where
  | comparison {leaf : Leaf} {value : Value} {datum : Datum} : leaf.value.resolve = .ok value →
      IsComparison leaf.comparator value → fieldDatum index leaf.field value = .ok datum →
      Retyped index [leaf] (relate leaf.comparator leaf.field value.datum)
        (relate leaf.comparator leaf.field datum)
  | startsWith {leaf : Leaf} {value : Value} {literal : String} : leaf.value.resolve = .ok value →
      leaf.comparator = .equal → value.wildcardForm = .startsWith literal →
      Retyped index [leaf] (startsWith leaf.field literal) (startsWith leaf.field literal)
  | endsWith {leaf : Leaf} {value : Value} {literal : String} : leaf.value.resolve = .ok value →
      leaf.comparator = .equal → value.wildcardForm = .endsWith literal →
      Retyped index [leaf] (endsWith leaf.field literal) (endsWith leaf.field literal)
  | connection {operator : String} {leaves : List Leaf} {untyped typed : List Datum} :
      operator ∈ connectives → untyped ≠ [] → RetypedAll index leaves untyped typed →
      Retyped index leaves (single operator (.array untyped)) (single operator (.array typed))

/-- Several such pairs of documents, one after the other. -/
inductive RetypedAll (index : FieldIndex) : List Leaf → List Datum → List Datum → Prop where
  | nil : RetypedAll index [] [] []
  | cons {leaves rest : List Leaf} {untyped typed : Datum} {untypedRest typedRest : List Datum} :
      Retyped index leaves untyped typed → RetypedAll index rest untypedRest typedRest →
      RetypedAll index (leaves ++ rest) (untyped :: untypedRest) (typed :: typedRest)

end

section Documents

variable {index : FieldIndex}

mutual

/-- Without a field that the document type has, the types change nothing. -/
theorem Retyped.eq_of_unknown {leaves : List Leaf} {untyped typed : Datum}
    (retyped : Retyped index leaves untyped typed)
    (unknown : ∀ leaf ∈ leaves, index.find? leaf.field = none) : typed = untyped := by
  match retyped with
  | @Retyped.comparison _ leaf value _ _ _ converted =>
    have same := fieldDatum_of_unknown (unknown leaf (List.mem_singleton_self _)) value
    obtain rfl := Except.ok.inj (same.symm.trans converted)
    rfl
  | .startsWith _ _ _ => rfl
  | .endsWith _ _ _ => rfl
  | .connection _ _ operands => rw [operands.eq_of_unknown unknown]

theorem RetypedAll.eq_of_unknown {leaves : List Leaf} {untyped typed : List Datum}
    (retyped : RetypedAll index leaves untyped typed)
    (unknown : ∀ leaf ∈ leaves, index.find? leaf.field = none) : typed = untyped := by
  match retyped with
  | .nil => rfl
  | .cons head tail =>
    obtain ⟨here, there⟩ := List.forall_mem_append.mp unknown
    rw [head.eq_of_unknown here, tail.eq_of_unknown there]

end

theorem retypedAll_of_relatedInTurn {leaves : List Leaf} {untyped typed : List Datum}
    (inTurn : Correspondence.RelatedInTurn (Retyped index) leaves untyped typed) :
    RetypedAll index leaves untyped typed := by
  induction inTurn with
  | nil => exact .nil
  | cons head _ inductionHypothesis => exact .cons head inductionHypothesis

/-- As many documents without types as with them. -/
theorem RetypedAll.isEmpty_eq {leaves : List Leaf} {untyped typed : List Datum}
    (retyped : RetypedAll index leaves untyped typed) : typed.isEmpty = untyped.isEmpty := by
  cases retyped <;> rfl

end Documents

section Lockstep

/-- A run without types beside one with types. If they may differ in it, the second one may fail
alone. -/
def besideTyped (mayDiffer : Prop) :
    Correspondence Unit (List Event) (CompileError NoOperands) (CompileError TypedFailure) where
  states _ _ := True
  errors _ _ := True
  secondMayFail := mayDiffer

variable {index : FieldIndex} {mayDiffer : Prop}

/-- The field of a leaf has a counterpart of the leaf's value. -/
def HasCounterpart (index : FieldIndex) (leaf : Leaf) : Prop :=
  ∀ value, leaf.value.resolve = .ok value → IsComparison leaf.comparator value →
    ∃ datum, fieldDatum index leaf.field value = .ok datum

theorem isComparison_of_relate {comparator : Comparator} {value : Value}
    (noPrefix : ∀ literal, comparator = .equal → value.wildcardForm ≠ .startsWith literal)
    (noSuffix : ∀ literal, comparator = .equal → value.wildcardForm ≠ .endsWith literal) :
    IsComparison comparator value := by
  intro isEqual
  cases form : value.wildcardForm with
  | startsWith literal => exact absurd form (noPrefix literal isEqual)
  | endsWith literal => exact absurd form (noSuffix literal isEqual)
  | plain => rfl

/-- A comparison with types fails if the value has no counterpart, and changes nothing else than the
value. -/
theorem outcome_compare (index : FieldIndex) (comparator : Comparator) (field : String)
    (value : Value) (events : List Event) :
    (Build.outcome ((typedBackend index).compare comparator field value) events).1 =
      ((fieldDatum index field value).map (relate comparator field)).mapError
        (TypedFailure.coercion field) := by
  simp only [typedBackend, coerceField, fieldDatum]
  cases index.find? field with
  | none => rfl
  | some type =>
    rw [Build.outcome_bind, Build.outcome_ofExcept]
    dsimp only
    cases type.elementType.coerce value <;> rfl

/-- Both backends set a field against a value in the same way, unless the value has no
counterpart. -/
theorem relate_steps {leaf : Leaf} {value : Value} (resolved : leaf.value.resolve = .ok value)
    (hasCounterpart : ¬ mayDiffer → HasCounterpart index leaf)
    {wrap : NoOperands → CompileError NoOperands}
    {wrapTyped : TypedFailure → CompileError TypedFailure} :
    (besideTyped mayDiffer).Steps (Retyped index [leaf])
      (ExceptT.adapt wrap (backend.relate leaf.comparator leaf.field value))
      (ExceptT.adapt wrapTyped ((typedBackend index).relate leaf.comparator leaf.field value)) := by
  unfold Backend.relate
  split
  · next literal isEqual form =>
    intro _ _ _
    exact .ok (.startsWith resolved isEqual form) trivial
  · next literal isEqual form =>
    intro _ _ _
    exact .ok (.endsWith resolved isEqual form) trivial
  · next noPrefix noSuffix =>
    have isComparison := isComparison_of_relate noPrefix noSuffix
    intro _ events _
    have converted := outcome_compare index leaf.comparator leaf.field value events
    rw [Build.outcome_adapt, Build.outcome_adapt, converted]
    cases found : fieldDatum index leaf.field value with
    | ok datum => exact .ok (.comparison resolved isComparison found) trivial
    | error fault =>
      by_cases allowed : mayDiffer
      · exact .failedAlone allowed
      · obtain ⟨datum, counterpart⟩ := hasCounterpart allowed value resolved isComparison
        cases found.symm.trans counterpart

theorem leafSteps {leaf : Leaf} (hasCounterpart : ¬ mayDiffer → HasCounterpart index leaf) :
    (besideTyped mayDiffer).LeafSteps (Retyped index) backend (typedBackend index) leaf := by
  unfold Correspondence.LeafSteps compareMember
  cases resolved : leaf.value.resolve with
  | error error => exact .throw trivial
  | ok value => exact relate_steps resolved hasCounterpart

/-- Both backends combine documents under the same operator, or have none to combine. -/
theorem combine_steps {operator : String} (connective : operator ∈ connectives)
    {leaves : List Leaf} {untyped typed : List Datum}
    (inTurn : Correspondence.RelatedInTurn (Retyped index) leaves untyped typed) :
    (besideTyped mayDiffer).Steps (Retyped index leaves)
      (ExceptT.adapt CompileError.combination (Build.ofExcept (combine operator untyped)))
      (ExceptT.adapt CompileError.combination
        (Build.ofExcept ((combine operator typed).mapError TypedFailure.noOperands))) := by
  have retyped := retypedAll_of_relatedInTurn inTurn
  intro _ _ _
  rw [Build.outcome_adapt, Build.outcome_adapt, Build.outcome_ofExcept, Build.outcome_ofExcept,
    combine, combine, retyped.isEmpty_eq]
  by_cases none : untyped.isEmpty = true
  · rw [if_pos none, if_pos none]
    exact .error trivial trivial
  · rw [if_neg none, if_neg none]
    have nonempty : untyped ≠ [] := by simpa using none
    exact .ok (.connection connective nonempty retyped) trivial

theorem leafConnectives :
    (besideTyped mayDiffer).LeafConnectives (Retyped index) backend (typedBackend index) where
  conjunction inTurn := combine_steps (by decide) inTurn
  disjunction inTurn := combine_steps (by decide) inTurn
  negation related _ _ _ := by
    refine .ok (.connection (by decide) (by simp) ?_) trivial
    simpa using RetypedAll.cons related .nil
  error _ := trivial

/-- Both backends compile a tree in lockstep, unless some leaf's value has no counterpart. -/
theorem compileTree_steps (index : FieldIndex) (mayDiffer : Prop) (expression : Expression)
    (hasCounterpart : ¬ mayDiffer →
      ∀ leaf ∈ Expression.leaves .filter expression, HasCounterpart index leaf) :
    (besideTyped mayDiffer).Steps (Retyped index (Expression.leaves .filter expression))
      (compileTree backend expression) (compileTree (typedBackend index) expression) :=
  leafConnectives.compileTree expression fun leaf listed =>
    leafSteps fun same => hasCounterpart same leaf listed

end Lockstep

section Refinement

variable {index : FieldIndex} {text : String} {events : List Event}

/-- A filter that compiles with types compiles without them, and the types change only values. -/
theorem exists_untyped {typed : Datum}
    (compiled : (Build.outcome (compileText (typedBackend index) text) events).1 = .ok typed) :
    ∃ expression untyped, parse text = .ok expression ∧
      (Build.outcome (compileText backend text) ()).1 = .ok untyped ∧
      Retyped index (Expression.leaves .filter expression) untyped typed := by
  unfold compileText at compiled ⊢
  cases parsed : parse text with
  | error error =>
    rw [parsed] at compiled
    cases compiled
  | ok expression =>
    rw [parsed] at compiled
    have outcomes := compileTree_steps index True expression (fun same => absurd trivial same)
      () events trivial
    simp only at compiled ⊢
    generalize Build.outcome (compileTree backend expression) () = first at outcomes ⊢
    generalize Build.outcome (compileTree (typedBackend index) expression) events = second
      at outcomes compiled
    cases outcomes with
    | ok related _ =>
      obtain rfl := Except.ok.inj compiled
      exact ⟨expression, _, rfl, rfl, related⟩
    | error _ _ => cases compiled
    | failedAlone _ => cases compiled

/-- A filter that compiles without types compiles with them, if every value has a counterpart. -/
theorem exists_typed {expression : Expression} {untyped : Datum}
    (parsed : parse text = .ok expression)
    (compiled : (Build.outcome (compileText backend text) ()).1 = .ok untyped)
    (hasCounterpart : ∀ leaf ∈ Expression.leaves .filter expression, HasCounterpart index leaf)
    (events : List Event) :
    ∃ typed, (Build.outcome (compileText (typedBackend index) text) events).1 = .ok typed := by
  unfold compileText at compiled ⊢
  rw [parsed] at compiled ⊢
  have outcomes := compileTree_steps index False expression (fun _ => hasCounterpart)
    () events trivial
  simp only at compiled ⊢
  generalize Build.outcome (compileTree backend expression) () = first at outcomes compiled
  generalize Build.outcome (compileTree (typedBackend index) expression) events = second
    at outcomes ⊢
  cases outcomes with
  | ok _ _ => exact ⟨_, rfl⟩
  | error _ _ => cases compiled
  | failedAlone impossible => exact impossible.elim

/-- Without a field that the document type has, types change nothing. -/
theorem typed_eq_untyped {expression : Expression} (parsed : parse text = .ok expression)
    (unknown : ∀ leaf ∈ Expression.leaves .filter expression, index.find? leaf.field = none)
    (events : List Event) (document : Datum) :
    (Build.outcome (compileText (typedBackend index) text) events).1 = .ok document ↔
      (Build.outcome (compileText backend text) ()).1 = .ok document := by
  constructor
  · intro compiled
    obtain ⟨found, untyped, again, withoutTypes, retyped⟩ := exists_untyped compiled
    obtain rfl := Except.ok.inj (parsed.symm.trans again)
    rwa [retyped.eq_of_unknown unknown]
  · intro compiled
    have hasCounterpart : ∀ leaf ∈ Expression.leaves .filter expression,
        HasCounterpart index leaf :=
      fun leaf listed value _ _ => ⟨_, fieldDatum_of_unknown (unknown leaf listed) value⟩
    obtain ⟨typed, withTypes⟩ := exists_typed parsed compiled hasCounterpart events
    obtain ⟨found, untyped, again, withoutTypes, retyped⟩ := exists_untyped withTypes
    obtain rfl := Except.ok.inj (parsed.symm.trans again)
    obtain rfl := Except.ok.inj (compiled.symm.trans withoutTypes)
    rwa [retyped.eq_of_unknown unknown] at withTypes

/-- Compiling with a document type refines compiling without one. What compiles with types also
compiles without them, to a document that differs in the compared values only, each being the value
of its leaf in the type of the leaf's field. What fails without types fails with them. Conversely,
types only refuse a filter for a value without a counterpart, and they change nothing about a filter
without a field that they know. -/
theorem typed_refines_untyped (index : FieldIndex) (text : String) (events : List Event) :
    (∀ typed, (Build.outcome (compileText (typedBackend index) text) events).1 = .ok typed →
      ∃ expression untyped, parse text = .ok expression ∧
        (Build.outcome (compileText backend text) ()).1 = .ok untyped ∧
        Retyped index (Expression.leaves .filter expression) untyped typed) ∧
    (∀ failure, (Build.outcome (compileText backend text) ()).1 = .error failure →
      ∃ typedFailure, (Build.outcome (compileText (typedBackend index) text) events).1 =
        .error typedFailure) ∧
    ∀ expression, parse text = .ok expression →
      ((∀ leaf ∈ Expression.leaves .filter expression, HasCounterpart index leaf) →
        ∀ untyped, (Build.outcome (compileText backend text) ()).1 = .ok untyped →
          ∃ typed, (Build.outcome (compileText (typedBackend index) text) events).1 =
            .ok typed) ∧
      ((∀ leaf ∈ Expression.leaves .filter expression, index.find? leaf.field = none) →
        ∀ document,
          (Build.outcome (compileText (typedBackend index) text) events).1 = .ok document ↔
            (Build.outcome (compileText backend text) ()).1 = .ok document) := by
  refine ⟨fun typed compiled => exists_untyped compiled, ?_, ?_⟩
  · intro failure failed
    cases outcome : (Build.outcome (compileText (typedBackend index) text) events).1 with
    | error typedFailure => exact ⟨typedFailure, rfl⟩
    | ok typed =>
      obtain ⟨_, untyped, _, compiled, _⟩ := exists_untyped outcome
      cases failed.symm.trans compiled
  · intro expression parsed
    refine ⟨?_, fun unknown => typed_eq_untyped parsed unknown events⟩
    intro hasCounterpart untyped compiled
    exact exists_typed parsed compiled hasCounterpart events

/-- A number that becomes text because its field holds text, beside a search and a field that the
document type does not have. -/
theorem typed_refines_untyped_text :
    (Build.outcome (compileText (typedBackend [("age", .element (.string "string"))])
        "age=3 AND NOT age=\"4*\" AND size=5") []).1 =
      .ok (single "$and" (.array [single "age" (.string "string" "3"),
        single "$nor" (.array [single "age" (.regex "^4")]),
        single "size" (.integer .int32 5)])) ∧
    ∃ expression, parse "age=3 AND NOT age=\"4*\" AND size=5" = .ok expression ∧
      Retyped [("age", .element (.string "string"))] (Expression.leaves .filter expression)
        (single "$and" (.array [single "age" (.integer .int32 3),
          single "$nor" (.array [single "age" (.regex "^4")]),
          single "size" (.integer .int32 5)]))
        (single "$and" (.array [single "age" (.string "string" "3"),
          single "$nor" (.array [single "age" (.regex "^4")]),
          single "size" (.integer .int32 5)])) := by
  have parsed : parse "age=3 AND NOT age=\"4*\" AND size=5" =
      .ok [[[.mk false (.compare ⟨⟨.text, "age", 0⟩, []⟩ "=" (some ⟨⟨.integer, "3", 4⟩, []⟩))]],
        [[.mk true (.compare ⟨⟨.text, "age", 14⟩, []⟩ "="
          (some ⟨⟨.string, "\"4*\"", 18⟩, []⟩))]],
        [[.mk false (.compare ⟨⟨.text, "size", 27⟩, []⟩ "="
          (some ⟨⟨.integer, "5", 32⟩, []⟩))]]] := rfl
  have withTypes : (Build.outcome (compileText
      (typedBackend [("age", .element (.string "string"))])
      "age=3 AND NOT age=\"4*\" AND size=5") []).1 =
      .ok (single "$and" (.array [single "age" (.string "string" "3"),
        single "$nor" (.array [single "age" (.regex "^4")]),
        single "size" (.integer .int32 5)])) := by
    rw [compileText, parsed]
    rfl
  have withoutTypes : (Build.outcome (compileText backend
      "age=3 AND NOT age=\"4*\" AND size=5") ()).1 =
      .ok (single "$and" (.array [single "age" (.integer .int32 3),
        single "$nor" (.array [single "age" (.regex "^4")]),
        single "size" (.integer .int32 5)])) := by
    rw [compileText, parsed]
    rfl
  obtain ⟨expression, untyped, again, compiled, retyped⟩ :=
    (typed_refines_untyped _ _ _).1 _ withTypes
  obtain rfl := Except.ok.inj (withoutTypes.symm.trans compiled)
  exact ⟨withTypes, expression, again, retyped⟩

end Refinement

end FilterQuery.Document
