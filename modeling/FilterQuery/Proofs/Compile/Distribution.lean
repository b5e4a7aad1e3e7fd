import FilterQuery.Compile.Basic
import FilterQuery.Proofs.Compile.Simulation
import FilterQuery.Proofs.Tree.Grammar
import FilterQuery.Sql.Clause

/-!
# Comparisons with a group

A field that is compared with a group of values is compared with each of them. So a group as an
argument is a shorthand: written out, it is the group itself, with the comparison in the place of
every bare value.

The two forms differ in where a comparison without a known sign is refused, before the group or at
its first value. As a group of values has a first value, the difference cannot be seen.
-/

namespace FilterQuery

/-- The restriction of a field by a sign and a value. Without a sign it is the bare field. -/
def Simple.restrict (field : Member) (sign : String) (value : Member) : Simple :=
  if sign = "" then .bare field else .compare field sign (some value)

/-- The restriction of a field by a sign and a group of values. Without a sign it is the bare
field. -/
def Simple.restrictEach (field : Member) (sign : String) (values : List (List (List Term))) :
    Simple :=
  if sign = "" then .bare field else .compareEach field sign values

mutual

/-- Whether a term has bare values for its only conditions. -/
def Term.isOfValues : Term → Bool
  | .mk _ simple => simple.isOfValues

/-- Whether a condition is a bare value or a group that has only bare values in it. -/
def Simple.isOfValues : Simple → Bool
  | .missing | .compare _ _ _ | .compareEach _ _ _ => false
  | .bare _ => true
  | .group expression => Expression.isOfValues expression

/-- Whether an expression has bare values for its only conditions. -/
def Expression.isOfValues : List (List (List Term)) → Bool
  | [] => true
  | sequence :: rest => Sequence.isOfValues sequence && Expression.isOfValues rest

/-- Whether a sequence has bare values for its only conditions. -/
def Sequence.isOfValues : List (List Term) → Bool
  | [] => true
  | factor :: rest => Factor.isOfValues factor && Sequence.isOfValues rest

/-- Whether a factor has bare values for its only conditions. -/
def Factor.isOfValues : List Term → Bool
  | [] => true
  | term :: rest => term.isOfValues && Factor.isOfValues rest

end

mutual

/-- A term with other conditions in the place of its bare values. -/
def Term.replaceValues (replacement : Member → Simple) : Term → Term
  | .mk negated simple => .mk negated (simple.replaceValues replacement)

/-- A condition with other conditions in the place of its bare values. -/
def Simple.replaceValues (replacement : Member → Simple) : Simple → Simple
  | .missing => .missing
  | .bare value => replacement value
  | .compare field sign argument => .compare field sign argument
  | .compareEach field sign values => .compareEach field sign values
  | .group expression => .group (Expression.replaceValues replacement expression)

/-- An expression with other conditions in the place of its bare values. -/
def Expression.replaceValues (replacement : Member → Simple) :
    List (List (List Term)) → List (List (List Term))
  | [] => []
  | sequence :: rest =>
    Sequence.replaceValues replacement sequence :: Expression.replaceValues replacement rest

/-- A sequence with other conditions in the place of its bare values. -/
def Sequence.replaceValues (replacement : Member → Simple) : List (List Term) → List (List Term)
  | [] => []
  | factor :: rest =>
    Factor.replaceValues replacement factor :: Sequence.replaceValues replacement rest

/-- A factor with other conditions in the place of its bare values. -/
def Factor.replaceValues (replacement : Member → Simple) : List Term → List Term
  | [] => []
  | term :: rest => term.replaceValues replacement :: Factor.replaceValues replacement rest

end

section Replacement

variable {State Failure Predicate : Type} {backend : Backend State Failure Predicate}
  {replacement : Member → Simple}

/-- In one context, the replacements of bare values compile as the values do in another. -/
def ReplacesValues (backend : Backend State Failure Predicate) (inner outer : Context)
    (replacement : Member → Simple) : Prop :=
  ∀ value, (replacement value).compile backend inner = (Simple.bare value).compile backend outer

/-- The replacements of bare values all fail alike. -/
def RefusesValues (backend : Backend State Failure Predicate) (context : Context)
    (replacement : Member → Simple) (error : CompileError Failure) : Prop :=
  ∀ value, (replacement value).compile backend context = fail error

section Agreement

variable {inner outer : Context}

mutual

theorem Term.compile_replaceValues (replaces : ReplacesValues backend inner outer replacement)
    (term : Term) (ofValues : term.isOfValues = true) :
    (term.replaceValues replacement).compile backend inner = term.compile backend outer := by
  match term with
  | .mk negated simple =>
    simp only [Term.replaceValues, Term.compile]
    rw [simple.compile_replaceValues replaces ofValues]

theorem Simple.compile_replaceValues (replaces : ReplacesValues backend inner outer replacement)
    (simple : Simple) (ofValues : simple.isOfValues = true) :
    (simple.replaceValues replacement).compile backend inner = simple.compile backend outer := by
  match simple with
  | .missing | .compare _ _ _ | .compareEach _ _ _ => cases ofValues
  | .bare value =>
    simp only [Simple.replaceValues]
    exact replaces value
  | .group expression =>
    simp only [Simple.replaceValues, Simple.compile]
    rw [Expression.compileParts_replaceValues replaces expression ofValues]

theorem Expression.compileParts_replaceValues
    (replaces : ReplacesValues backend inner outer replacement)
    (expression : List (List (List Term))) (ofValues : Expression.isOfValues expression = true) :
    Expression.compileParts backend inner (Expression.replaceValues replacement expression) =
      Expression.compileParts backend outer expression := by
  match expression with
  | [] => simp only [Expression.replaceValues, Expression.compileParts]
  | sequence :: rest =>
    simp only [Expression.isOfValues, Bool.and_eq_true] at ofValues
    simp only [Expression.replaceValues, Expression.compileParts]
    rw [Sequence.compileParts_replaceValues replaces sequence ofValues.1,
      Expression.compileParts_replaceValues replaces rest ofValues.2]

theorem Sequence.compileParts_replaceValues
    (replaces : ReplacesValues backend inner outer replacement) (sequence : List (List Term))
    (ofValues : Sequence.isOfValues sequence = true) :
    Sequence.compileParts backend inner (Sequence.replaceValues replacement sequence) =
      Sequence.compileParts backend outer sequence := by
  match sequence with
  | [] => simp only [Sequence.replaceValues, Sequence.compileParts]
  | factor :: rest =>
    simp only [Sequence.isOfValues, Bool.and_eq_true] at ofValues
    simp only [Sequence.replaceValues, Sequence.compileParts]
    rw [Factor.compileParts_replaceValues replaces factor ofValues.1,
      Sequence.compileParts_replaceValues replaces rest ofValues.2]

theorem Factor.compileParts_replaceValues
    (replaces : ReplacesValues backend inner outer replacement) (factor : List Term)
    (ofValues : Factor.isOfValues factor = true) :
    Factor.compileParts backend inner (Factor.replaceValues replacement factor) =
      Factor.compileParts backend outer factor := by
  match factor with
  | [] => simp only [Factor.replaceValues, Factor.compileParts]
  | term :: rest =>
    simp only [Factor.isOfValues, Bool.and_eq_true] at ofValues
    simp only [Factor.replaceValues, Factor.compileParts]
    rw [term.compile_replaceValues replaces ofValues.1,
      Factor.compileParts_replaceValues replaces rest ofValues.2]

end

end Agreement

section Refusal

variable {context : Context} {error : CompileError Failure}

/-- Nothing happens after a failure. -/
theorem fail_bind {Result Next : Type} (error : CompileError Failure)
    (next : Result → Build State (CompileError Failure) Next) : fail error >>= next = fail error :=
  rfl

-- Only the first value is reached, so the recursion follows the heads of the lists.
mutual

theorem Term.compile_replaceValues_eq_fail
    (refuses : RefusesValues backend context replacement error) (term : Term)
    (ofValues : term.isOfValues = true) (filled : term.isFilled = true) :
    (term.replaceValues replacement).compile backend context = fail error := by
  match term with
  | .mk negated simple =>
    simp only [Term.replaceValues, Term.compile]
    rw [simple.compile_replaceValues_eq_fail refuses ofValues filled, fail_bind]

theorem Simple.compile_replaceValues_eq_fail
    (refuses : RefusesValues backend context replacement error) (simple : Simple)
    (ofValues : simple.isOfValues = true) (filled : simple.isFilled = true) :
    (simple.replaceValues replacement).compile backend context = fail error := by
  match simple with
  | .missing | .compare _ _ _ | .compareEach _ _ _ => cases ofValues
  | .bare value =>
    simp only [Simple.replaceValues]
    exact refuses value
  | .group expression =>
    simp only [Simple.isFilled, Bool.and_eq_true] at filled
    simp only [Simple.replaceValues, Simple.compile]
    rw [Expression.compileParts_replaceValues_eq_fail refuses expression ofValues filled.1
      filled.2, fail_bind]

theorem Expression.compileParts_replaceValues_eq_fail
    (refuses : RefusesValues backend context replacement error)
    (expression : List (List (List Term))) (ofValues : Expression.isOfValues expression = true)
    (nonempty : (!expression.isEmpty) = true) (filled : Expression.areFilled expression = true) :
    Expression.compileParts backend context (Expression.replaceValues replacement expression) =
      fail error := by
  match expression with
  | [] => cases nonempty
  | sequence :: rest =>
    simp only [Expression.isOfValues, Bool.and_eq_true] at ofValues
    simp only [Expression.areFilled, Bool.and_eq_true] at filled
    simp only [Expression.replaceValues, Expression.compileParts]
    rw [Sequence.compileParts_replaceValues_eq_fail refuses sequence ofValues.1 filled.1.1
      filled.1.2, fail_bind]

theorem Sequence.compileParts_replaceValues_eq_fail
    (refuses : RefusesValues backend context replacement error) (sequence : List (List Term))
    (ofValues : Sequence.isOfValues sequence = true) (nonempty : (!sequence.isEmpty) = true)
    (filled : Sequence.areFilled sequence = true) :
    Sequence.compileParts backend context (Sequence.replaceValues replacement sequence) =
      fail error := by
  match sequence with
  | [] => cases nonempty
  | factor :: rest =>
    simp only [Sequence.isOfValues, Bool.and_eq_true] at ofValues
    simp only [Sequence.areFilled, Bool.and_eq_true] at filled
    simp only [Sequence.replaceValues, Sequence.compileParts]
    rw [Factor.compileParts_replaceValues_eq_fail refuses factor ofValues.1 filled.1.1
      filled.1.2, fail_bind]

theorem Factor.compileParts_replaceValues_eq_fail
    (refuses : RefusesValues backend context replacement error) (factor : List Term)
    (ofValues : Factor.isOfValues factor = true) (nonempty : (!factor.isEmpty) = true)
    (filled : Factor.areFilled factor = true) :
    Factor.compileParts backend context (Factor.replaceValues replacement factor) =
      fail error := by
  match factor with
  | [] => cases nonempty
  | term :: rest =>
    simp only [Factor.isOfValues, Bool.and_eq_true] at ofValues
    simp only [Factor.areFilled, Bool.and_eq_true] at filled
    simp only [Factor.replaceValues, Factor.compileParts]
    rw [term.compile_replaceValues_eq_fail refuses ofValues.1 filled.1, fail_bind]

end

end Refusal

end Replacement

section Distribution

variable {State Failure Predicate : Type} (backend : Backend State Failure Predicate)
  {field : Member} {sign : String} {values : Expression}

/-- A comparison with a known sign does to each value what the group does to it. -/
theorem compile_restrictEach_of_known {comparator : Comparator}
    (known : Comparator.ofSign? sign = some comparator)
    (ofValues : Expression.isOfValues values = true) :
    (Simple.restrictEach field sign values).compile backend .filter =
      (Simple.group (Expression.replaceValues (Simple.restrict field sign) values)).compile backend
        .filter := by
  have signed : sign ≠ "" := by
    rintro rfl
    cases known
  have replaces : ReplacesValues backend .filter (.argument field.text comparator)
      (Simple.restrict field sign) := by
    intro value
    simp only [Simple.restrict, if_neg signed, Simple.compile, known]
  simp only [Simple.restrictEach, if_neg signed, Simple.compile, known]
  rw [Expression.compileParts_replaceValues replaces values ofValues]

/-- A comparison without a known sign is refused whatever it compares the field with. -/
theorem exists_refusal_of_unknown (field : Member) (unknown : Comparator.ofSign? sign = none) :
    ∃ error, RefusesValues backend .filter (Simple.restrict field sign) error ∧
      ∀ values, (Simple.restrictEach field sign values).compile backend .filter = fail error := by
  by_cases signed : sign = ""
  · refine ⟨.noComparator field.text, fun value => ?_, fun values => ?_⟩
    · simp only [Simple.restrict, if_pos signed, Simple.compile]
    · simp only [Simple.restrictEach, if_pos signed, Simple.compile]
  · refine ⟨.unsupportedComparator sign, fun value => ?_, fun values => ?_⟩
    · simp only [Simple.restrict, if_neg signed, Simple.compile, unknown]
    · simp only [Simple.restrictEach, if_neg signed, Simple.compile, unknown]

/-- A comparison with a group is the group of comparisons. -/
theorem compile_restrictEach (field : Member) (sign : String)
    (ofValues : Expression.isOfValues values = true) (filled : values.isFilled = true) :
    (Simple.restrictEach field sign values).compile backend .filter =
      (Simple.group (Expression.replaceValues (Simple.restrict field sign) values)).compile backend
        .filter := by
  cases known : Comparator.ofSign? sign with
  | some comparator => exact compile_restrictEach_of_known backend known ofValues
  | none =>
    obtain ⟨error, refuses, refused⟩ := exists_refusal_of_unknown backend field known
    have grouped : (Simple.group values).isFilled = true := by
      simpa only [Simple.isFilled, Expression.isFilled] using filled
    rw [refused]
    exact (Simple.compile_replaceValues_eq_fail refuses (.group values) ofValues grouped).symm

/-- A filter of one condition compiles to what the condition compiles to. -/
theorem compileTree_single (negated : Bool) (simple : Simple) :
    compileTree backend [[[.mk negated simple]]] =
      (Term.mk negated simple).compile backend .filter := by
  simp [compileTree, Expression.compileIn, Expression.compileParts, Sequence.compileParts,
    Factor.compileParts, joinPredicates]

end Distribution

/-- A group as an argument is a shorthand. Whatever the field, the text of the sign and the backend,
a comparison with a filled group of bare values has the same result, or the same error with the same
wording, and leaves the same state as the group in which every bare value is replaced by the
comparison with it; and so it is for the filters that consist of the two, plain or negated. -/
theorem comparison_distributes_over_group {State Failure Predicate : Type}
    (backend : Backend State Failure Predicate) (field : Member) (sign : String)
    {values : Expression} (ofValues : Expression.isOfValues values = true)
    (filled : values.isFilled = true) (state : State) :
    Build.outcome ((Simple.restrictEach field sign values).compile backend .filter) state =
      Build.outcome ((Simple.group
        (Expression.replaceValues (Simple.restrict field sign) values)).compile backend .filter)
        state ∧
    ∀ negated,
      Build.outcome (compileTree backend
          [[[.mk negated (.restrictEach field sign values)]]]) state =
        Build.outcome (compileTree backend [[[.mk negated
          (.group (Expression.replaceValues (Simple.restrict field sign) values))]]]) state := by
  have same := compile_restrictEach backend field sign ofValues filled
  refine ⟨by rw [same], fun negated => ?_⟩
  rw [compileTree_single, compileTree_single]
  simp only [Term.compile, same]

/-- A negated comparison with a group in which there is another group and a search, when four
arguments are bound already. -/
theorem comparison_distributes_over_group_nested :
    Build.outcome (compileTree (Sql.backend {})
        [[[.mk true (.compareEach ⟨⟨.text, "n", 1⟩, []⟩ "=" [[[
          .mk false (.bare ⟨⟨.integer, "1", 4⟩, []⟩),
          .mk true (.group [[
            [.mk false (.bare ⟨⟨.text, "x*", 11⟩, []⟩)],
            [.mk false (.bare ⟨⟨.boolean, "true", 14⟩, []⟩)]]])]]])]]]) 4 =
      Build.outcome (compileTree (Sql.backend {})
        [[[.mk true (.group [[[
          .mk false (.compare ⟨⟨.text, "n", 1⟩, []⟩ "=" (some ⟨⟨.integer, "1", 4⟩, []⟩)),
          .mk true (.group [[
            [.mk false (.compare ⟨⟨.text, "n", 1⟩, []⟩ "=" (some ⟨⟨.text, "x*", 11⟩, []⟩))],
            [.mk false (.compare ⟨⟨.text, "n", 1⟩, []⟩ "="
              (some ⟨⟨.boolean, "true", 14⟩, []⟩))]]])]]])]]]) 4 ∧
    (Build.outcome (compileTree (Sql.backend {})
        [[[.mk true (.compareEach ⟨⟨.text, "n", 1⟩, []⟩ "=" [[[
          .mk false (.bare ⟨⟨.integer, "1", 4⟩, []⟩),
          .mk true (.group [[
            [.mk false (.bare ⟨⟨.text, "x*", 11⟩, []⟩)],
            [.mk false (.bare ⟨⟨.boolean, "true", 14⟩, []⟩)]]])]]])]]]) 4).1.map Sql.Clause.text =
      .ok "NOT (\"n\" = @p5 OR NOT (\"n\" LIKE @p6 AND \"n\" = @p7))" :=
  ⟨(comparison_distributes_over_group (Sql.backend {}) ⟨⟨.text, "n", 1⟩, []⟩ "=" rfl rfl 4).2 true,
    rfl⟩

end FilterQuery
