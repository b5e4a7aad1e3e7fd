import FilterQuery.Compile.Predicate
import FilterQuery.Proofs.Compile.Lockstep

/-!
# Predicates are opaque to the compiler

The compiler passes on predicates that a backend built, and does nothing else with them. So whatever
relates the predicates of two backends and is kept by each of their operations also relates what
the two backends make of a filter. This is what lets one grammar serve several stores.

As an application, writing down the calls of a compilation as they are made gives the text of the
term that the compilation builds.
-/

namespace FilterQuery

section Relations

variable {State₁ State₂ Failure Result₁ Result₂ : Type}

/-- Two steps are related when, from related states, they end in related states, and either both
return related results or both fail with the same failure. -/
def Build.Related (states : State₁ → State₂ → Prop) (results : Result₁ → Result₂ → Prop)
    (first : Build State₁ Failure Result₁) (second : Build State₂ Failure Result₂) : Prop :=
  ∀ state₁ state₂, states state₁ state₂ →
    states (first.outcome state₁).2 (second.outcome state₂).2 ∧
      ((∃ result₁ result₂, (first.outcome state₁).1 = .ok result₁ ∧
          (second.outcome state₂).1 = .ok result₂ ∧ results result₁ result₂) ∨
        ∃ failure, (first.outcome state₁).1 = .error failure ∧
          (second.outcome state₂).1 = .error failure)

/-- Runs with related states and the same errors. -/
def Correspondence.sameErrors (Error : Type) (states : State₁ → State₂ → Prop) :
    Correspondence State₁ State₂ Error Error where
  states := states
  errors := Eq

variable {states : State₁ → State₂ → Prop} {results : Result₁ → Result₂ → Prop}

/-- Steps are related exactly when they go in lockstep and fail alike. -/
theorem Build.related_iff_steps {first : Build State₁ Failure Result₁}
    {second : Build State₂ Failure Result₂} :
    Build.Related states results first second ↔
      (Correspondence.sameErrors Failure states).Steps results first second := by
  constructor
  · intro related state₁ state₂ before
    obtain ⟨after, outcome⟩ := related state₁ state₂ before
    rcases outcome₁ : first.outcome state₁ with ⟨returned₁, after₁⟩
    rcases outcome₂ : second.outcome state₂ with ⟨returned₂, after₂⟩
    rw [outcome₁, outcome₂] at after outcome
    rcases outcome with ⟨result₁, result₂, rfl, rfl, same⟩ | ⟨failure, rfl, rfl⟩
    · exact .ok same after
    · exact .error rfl after
  · intro steps state₁ state₂ before
    have outcomes := steps state₁ state₂ before
    generalize first.outcome state₁ = outcome₁ at outcomes ⊢
    generalize second.outcome state₂ = outcome₂ at outcomes ⊢
    cases outcomes with
    | ok same after => exact ⟨after, .inl ⟨_, _, rfl, rfl, same⟩⟩
    | error same after => exact ⟨after, .inr ⟨_, rfl, congrArg Except.error (Eq.symm same)⟩⟩
    | failedAlone allowed => exact allowed.elim

/-- Failures that are wrapped alike stay the same. -/
theorem Build.Related.adapt {Error : Type} {first : Build State₁ Failure Result₁}
    {second : Build State₂ Failure Result₂} (related : Build.Related states results first second)
    (wrap : Failure → Error) :
    (Correspondence.sameErrors Error states).Steps results
      (ExceptT.adapt wrap first : Build State₁ Error Result₁)
      (ExceptT.adapt wrap second : Build State₂ Error Result₂) := by
  intro state₁ state₂ before
  rw [Build.outcome_adapt, Build.outcome_adapt]
  have outcomes := Build.related_iff_steps.mp related state₁ state₂ before
  generalize first.outcome state₁ = outcome₁ at outcomes ⊢
  generalize second.outcome state₂ = outcome₂ at outcomes ⊢
  cases outcomes with
  | ok same after => exact .ok same after
  | error same after => exact .error (congrArg wrap same) after
  | failedAlone allowed => exact allowed.elim

end Relations

section Compilation

variable {State₁ State₂ Failure Predicate₁ Predicate₂ : Type}
  {states : State₁ → State₂ → Prop} {predicates : Predicate₁ → Predicate₂ → Prop}
  {first : Backend State₁ Failure Predicate₁} {second : Backend State₂ Failure Predicate₂}

/-- Every operation of two backends keeps a relation between their predicates: called with the same
fields, literals and values, and with related operands in lists of one length, the two steps are
related. The comparisons are seven operations, one for each comparator. -/
structure Backend.Related (states : State₁ → State₂ → Prop)
    (predicates : Predicate₁ → Predicate₂ → Prop) (first : Backend State₁ Failure Predicate₁)
    (second : Backend State₂ Failure Predicate₂) : Prop where
  conjunction : ∀ {operands₁ operands₂}, List.Forall₂ predicates operands₁ operands₂ →
    Build.Related states predicates (first.conjunction operands₁) (second.conjunction operands₂)
  disjunction : ∀ {operands₁ operands₂}, List.Forall₂ predicates operands₁ operands₂ →
    Build.Related states predicates (first.disjunction operands₁) (second.disjunction operands₂)
  negation : ∀ {operand₁ operand₂}, predicates operand₁ operand₂ →
    Build.Related states predicates (first.negation operand₁) (second.negation operand₂)
  prefixSearch : ∀ field literal,
    Build.Related states predicates (first.prefixSearch field literal)
      (second.prefixSearch field literal)
  suffixSearch : ∀ field literal,
    Build.Related states predicates (first.suffixSearch field literal)
      (second.suffixSearch field literal)
  compare : ∀ comparator field value,
    Build.Related states predicates (first.compare comparator field value)
      (second.compare comparator field value)

/-- Which operation a value calls for does not depend on the backend. -/
theorem Backend.Related.relate (related : Backend.Related states predicates first second)
    (comparator : Comparator) (field : String) (value : Value) :
    Build.Related states predicates (first.relate comparator field value)
      (second.relate comparator field value) := by
  unfold Backend.relate
  split
  · exact related.prefixSearch field _
  · exact related.suffixSearch field _
  · exact related.compare _ field value

/-- Related backends go in lockstep, also where the compiler wraps what a backend fails with. -/
theorem Backend.Related.operations (related : Backend.Related states predicates first second) :
    (Correspondence.sameErrors (CompileError Failure) states).Operations predicates first
      second where
  conjunction operands := (related.conjunction operands).adapt _
  disjunction operands := (related.disjunction operands).adapt _
  negation operand := (related.negation operand).adapt _
  relation comparator field value := (related.relate comparator field value).adapt _
  error _ := rfl

/-- The compiler treats predicates as opaque. If every operation of two backends keeps a relation
between their predicates, then every filter tree compiles to related predicates, or fails with the
same error, through both. This includes trees that lack something: where one compilation breaks off
(`CompileError.nestedFragment`), the other breaks off too, at the same field. A backend without a
state, or whose state does not matter, has the relation between states that always holds. -/
theorem compilation_is_parametric (related : Backend.Related states predicates first second)
    (expression : Expression) :
    Build.Related states predicates (compileTree first expression)
      (compileTree second expression) :=
  Build.related_iff_steps.mpr (related.operations.compileTree expression)

end Compilation

namespace Predicate

/-- A call that is written down unless it is the refused one. -/
def note {State : Type} (refused : Option String) (call text : String) :
    Build State Refusal String :=
  if refused = some call then throw ⟨call⟩ else pure text

/-- The backend whose predicates are the calls as they are written down. -/
def textBackend (name : String) (refused : Option String) : Backend Unit Refusal String where
  name := name
  conjunction operands := note refused "And" ("And[" ++ ", ".intercalate operands ++ "]")
  disjunction operands := note refused "Or" ("Or[" ++ ", ".intercalate operands ++ "]")
  negation operand := note refused "Not" ("Not(" ++ operand ++ ")")
  prefixSearch field literal := note refused "PrefixSearch"
    ("PrefixSearch(" ++ field ++ "," ++ literal ++ "," ++ prefixPattern literal ++ ")")
  suffixSearch field literal := note refused "SuffixSearch"
    ("SuffixSearch(" ++ field ++ "," ++ literal ++ "," ++ suffixPattern literal ++ ")")
  compare comparator field value := note refused (comparisonName comparator)
    (comparisonName comparator ++ "(" ++ field ++ "," ++ value.kind.name ++ ":" ++ value.raw ++ ")")

/-- A text is that of a term. -/
def WrittenAs (term : Predicate) (text : String) : Prop := term.render = text

theorem renderAll_of_writtenAs {terms : List Predicate} {texts : List String}
    (written : List.Forall₂ WrittenAs terms texts) : renderAll terms = texts := by
  induction written with
  | nil => rfl
  | @cons term text terms texts head _ inductionHypothesis =>
    have same : term.render = text := head
    rw [renderAll, same, inductionHypothesis]

/-- A call and its note are refused together. -/
theorem answer_related_note (refused : Option String) (call : String) {term : Predicate}
    {text : String} (written : term.WrittenAs text) :
    Build.Related (fun _ _ : Unit => True) WrittenAs (answer refused call term)
      (note refused call text) := by
  intro _ _ _
  refine ⟨trivial, ?_⟩
  unfold answer note
  by_cases isRefused : refused = some call
  · rw [if_pos isRefused, if_pos isRefused]
    exact .inr ⟨⟨call⟩, rfl, rfl⟩
  · rw [if_neg isRefused, if_neg isRefused]
    exact .inl ⟨term, text, rfl, rfl, written⟩

theorem writtenAs_and {terms : List Predicate} {texts : List String}
    (written : List.Forall₂ WrittenAs terms texts) :
    (Predicate.and terms).WrittenAs ("And[" ++ ", ".intercalate texts ++ "]") :=
  congrArg (fun texts => "And[" ++ ", ".intercalate texts ++ "]") (renderAll_of_writtenAs written)

theorem writtenAs_or {terms : List Predicate} {texts : List String}
    (written : List.Forall₂ WrittenAs terms texts) :
    (Predicate.or terms).WrittenAs ("Or[" ++ ", ".intercalate texts ++ "]") :=
  congrArg (fun texts => "Or[" ++ ", ".intercalate texts ++ "]") (renderAll_of_writtenAs written)

theorem writtenAs_not {term : Predicate} {text : String} (written : term.WrittenAs text) :
    (Predicate.not term).WrittenAs ("Not(" ++ text ++ ")") :=
  congrArg (fun text => "Not(" ++ text ++ ")") written

/-- Building terms and writing down calls are related by the text of terms. -/
theorem backend_related_textBackend (name₁ name₂ : String) (refused : Option String) :
    Backend.Related (fun _ _ => True) WrittenAs (backend name₁ refused)
      (textBackend name₂ refused) where
  conjunction written := answer_related_note refused "And" (writtenAs_and written)
  disjunction written := answer_related_note refused "Or" (writtenAs_or written)
  negation written := answer_related_note refused "Not" (writtenAs_not written)
  prefixSearch _ _ := answer_related_note refused "PrefixSearch" rfl
  suffixSearch _ _ := answer_related_note refused "SuffixSearch" rfl
  compare comparator _ _ := answer_related_note refused (comparisonName comparator) rfl

end Predicate

/-- The calls of a compilation as they are written down, and the error when one kind of call is
refused, from the term and the error of building a term. -/
theorem compilation_is_parametric_texts :
    (Build.outcome (compileTree (Predicate.textBackend "texts" none)
      [[[.mk true (.compareEach ⟨⟨.text, "b", 1⟩, []⟩ ":" [[[
        .mk false (.bare ⟨⟨.integer, "1", 4⟩, []⟩),
        .mk false (.bare ⟨⟨.text, "y", 9⟩, []⟩)]]])]]]) ()).1 =
      .ok "Not(Or[Has(b,integer32:1), Has(b,text:y)])" ∧
    (Build.outcome (compileTree (Predicate.textBackend "texts" (some "Or"))
      [[[.mk true (.compareEach ⟨⟨.text, "b", 1⟩, []⟩ ":" [[[
        .mk false (.bare ⟨⟨.integer, "1", 4⟩, []⟩),
        .mk false (.bare ⟨⟨.text, "y", 9⟩, []⟩)]]])]]]) ()).1 =
      .error (.combination ⟨"Or"⟩) := by
  have outcome (refused : Option String) := (compilation_is_parametric
    (Predicate.backend_related_textBackend "terms" "texts" refused)
    [[[.mk true (.compareEach ⟨⟨.text, "b", 1⟩, []⟩ ":" [[[
      .mk false (.bare ⟨⟨.integer, "1", 4⟩, []⟩),
      .mk false (.bare ⟨⟨.text, "y", 9⟩, []⟩)]]])]]] () () trivial).2
  constructor
  · rcases outcome none with ⟨term, text, compiled, noted, rfl⟩ | ⟨error, failed, -⟩
    · rw [noted, ← Except.ok.inj compiled]
      rfl
    · cases failed
  · rcases outcome (some "Or") with ⟨term, text, compiled, -, -⟩ | ⟨error, failed, refused⟩
    · cases compiled
    · rw [refused, ← Except.error.inj failed]

end FilterQuery
