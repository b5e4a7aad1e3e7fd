import FilterQuery.Document.Query
import FilterQuery.Proofs.Compile.Leaves

/-!
# Keys of query documents

A query document says what it asks for by its key: the key of a connective, or the field of a
condition. The keys in predicate position of a compiled filter are those of the connectives that
were called and the fields that the filter spells, and nothing keeps a filter from spelling a field
with a dollar sign in front.
-/

namespace FilterQuery.Document

/-- The keys whose operands are documents that are read as conditions themselves. -/
def connectives : List String := ["$and", "$or", "$nor"]

/-- The documents that are read as conditions: the whole document and, from there on, the elements
of the arrays under connectives. -/
inductive InPredicatePosition (document : Datum) : Datum → Prop where
  | whole : InPredicatePosition document document
  | operand {fields : List (String × Datum)} {operator : String} {items : List Datum}
      {item : Datum} : InPredicatePosition document (.document fields) →
      (operator, .array items) ∈ fields → operator ∈ connectives → item ∈ items →
      InPredicatePosition document item

theorem InPredicatePosition.trans {document middle found : Datum}
    (outer : InPredicatePosition document middle) (inner : InPredicatePosition middle found) :
    InPredicatePosition document found := by
  induction inner with
  | whole => exact outer
  | operand _ listed connective member inductionHypothesis =>
    exact .operand inductionHypothesis listed connective member

/-- The elements of the array under a connective are read as conditions. -/
theorem InPredicatePosition.of_connective {operator : String} {items : List Datum} {item : Datum}
    (connective : operator ∈ connectives) (member : item ∈ items) :
    InPredicatePosition (single operator (.array items)) item :=
  .operand .whole (by simp) connective member

/-- Data other than arrays, which no connective takes. -/
def IsPlain (value : Datum) : Prop := ∀ items, value ≠ .array items

mutual

/-- The documents that the operations of the backend build, with the fields of their conditions
from left to right. -/
inductive Describes : List String → Datum → Prop where
  | condition {field : String} {value : Datum} : IsPlain value →
      Describes [field] (single field value)
  | conjunction {fields : List String} {operands : List Datum} : operands ≠ [] →
      DescribesAll fields operands → Describes fields (single "$and" (.array operands))
  | disjunction {fields : List String} {operands : List Datum} : operands ≠ [] →
      DescribesAll fields operands → Describes fields (single "$or" (.array operands))
  | negation {fields : List String} {operand : Datum} : Describes fields operand →
      Describes fields (single "$nor" (.array [operand]))

/-- Several such documents, one after the other. -/
inductive DescribesAll : List String → List Datum → Prop where
  | nil : DescribesAll [] []
  | cons {fields rest : List String} {operand : Datum} {operands : List Datum} :
      Describes fields operand → DescribesAll rest operands →
      DescribesAll (fields ++ rest) (operand :: operands)

end

/-- Each of several documents is about some of the fields. -/
theorem DescribesAll.of_mem {fields : List String} {operands : List Datum}
    (all : DescribesAll fields operands) {operand : Datum} (member : operand ∈ operands) :
    ∃ own, own ⊆ fields ∧ Describes own operand := by
  induction operands generalizing fields with
  | nil => cases member
  | cons first others inductionHypothesis =>
    cases all with
    | cons head tail =>
      rcases List.mem_cons.mp member with rfl | later
      · exact ⟨_, List.subset_append_left _ _, head⟩
      · obtain ⟨own, within, described⟩ := inductionHypothesis tail later
        exact ⟨own, fun _ listed => List.mem_append_right _ (within listed), described⟩

/-- An array in a built document holds built documents, each about some of the fields. -/
theorem Describes.of_item {fields : List String} {entries : List (String × Datum)}
    (described : Describes fields (.document entries)) {key : String} {items : List Datum}
    (listed : (key, .array items) ∈ entries) {item : Datum} (member : item ∈ items) :
    ∃ own, own ⊆ fields ∧ Describes own item := by
  generalize shape : Datum.document entries = document at described
  cases described with
  | condition plain =>
    obtain rfl := Datum.document.inj shape
    obtain ⟨-, same⟩ := Prod.mk.inj (List.mem_singleton.mp listed)
    exact absurd same.symm (plain items)
  | conjunction _ all | disjunction _ all =>
    obtain rfl := Datum.document.inj shape
    obtain ⟨-, same⟩ := Prod.mk.inj (List.mem_singleton.mp listed)
    obtain rfl := Datum.array.inj same
    exact all.of_mem member
  | negation operand =>
    obtain rfl := Datum.document.inj shape
    obtain ⟨-, same⟩ := Prod.mk.inj (List.mem_singleton.mp listed)
    obtain rfl := Datum.array.inj same
    obtain rfl := List.mem_singleton.mp member
    exact ⟨fields, fun _ listed => listed, operand⟩

/-- Every document in predicate position is built by the operations, about some of the fields. -/
theorem Describes.of_position {fields : List String} {document found : Datum}
    (described : Describes fields document) (position : InPredicatePosition document found) :
    ∃ own, own ⊆ fields ∧ Describes own found := by
  induction position with
  | whole => exact ⟨fields, fun _ listed => listed, described⟩
  | operand _ listed connective member inductionHypothesis =>
    obtain ⟨outer, outerWithin, outerDescribed⟩ := inductionHypothesis
    obtain ⟨own, within, itself⟩ := outerDescribed.of_item listed member
    exact ⟨own, fun _ named => outerWithin (within named), itself⟩

mutual

/-- Every field has a condition in predicate position. -/
theorem Describes.exists_condition {fields : List String} {document : Datum}
    (described : Describes fields document) {field : String} (listed : field ∈ fields) :
    ∃ value, IsPlain value ∧ InPredicatePosition document (single field value) := by
  match described with
  | .condition plain =>
    obtain rfl := List.mem_singleton.mp listed
    exact ⟨_, plain, .whole⟩
  | .conjunction _ all =>
    obtain ⟨operand, member, value, plain, inside⟩ := all.exists_condition listed
    exact ⟨value, plain, (InPredicatePosition.of_connective (by decide) member).trans inside⟩
  | .disjunction _ all =>
    obtain ⟨operand, member, value, plain, inside⟩ := all.exists_condition listed
    exact ⟨value, plain, (InPredicatePosition.of_connective (by decide) member).trans inside⟩
  | .negation operand =>
    obtain ⟨value, plain, inside⟩ := operand.exists_condition listed
    exact ⟨value, plain, (InPredicatePosition.of_connective (by decide) (by simp)).trans inside⟩

theorem DescribesAll.exists_condition {fields : List String} {operands : List Datum}
    (all : DescribesAll fields operands) {field : String} (listed : field ∈ fields) :
    ∃ operand ∈ operands, ∃ value, IsPlain value ∧
      InPredicatePosition operand (single field value) := by
  match all with
  | .nil => cases listed
  | .cons head tail =>
    rcases List.mem_append.mp listed with here | later
    · obtain ⟨value, plain, inside⟩ := head.exists_condition here
      exact ⟨_, List.mem_cons_self, value, plain, inside⟩
    · obtain ⟨operand, member, rest⟩ := tail.exists_condition later
      exact ⟨operand, List.mem_cons_of_mem _ member, rest⟩

end

section Operations

theorem isPlain_single (key : String) (value : Datum) : IsPlain (single key value) := by
  intro items same
  cases same

theorem isPlain_datum (value : Value) : IsPlain value.datum := by
  intro items same
  unfold Value.datum at same
  split at same <;> cases same

theorem describes_relate (comparator : Comparator) (field : String) {value : Datum}
    (plain : IsPlain value) : Describes [field] (relate comparator field value) := by
  cases comparator with
  | equal => exact .condition plain
  | less | lessEqual | greaterEqual | greater | notEqual | has =>
    exact .condition (isPlain_single _ _)

theorem describes_search (field pattern : String) :
    Describes [field] (single field (.regex pattern)) := by
  refine .condition fun items same => ?_
  cases same

/-- A combination is one of at least one document. -/
theorem combine_eq_ok {operator : String} {operands : List Datum} {document : Datum}
    (combined : combine operator operands = .ok document) :
    operands ≠ [] ∧ document = single operator (.array operands) := by
  unfold combine at combined
  split at combined
  · cases combined
  · next nonempty =>
    obtain rfl := Except.ok.inj combined
    exact ⟨by simpa using nonempty, rfl⟩

end Operations

/-- Documents that were built in turn are all about their leaves' fields. -/
theorem describesAll_of_builtInTurn {state after : Unit} {leaves : List Leaf}
    {operands : List Datum}
    (inTurn : BuiltInTurn (fun _ leaves document _ => Describes (leaves.map Leaf.field) document)
      state leaves operands after) :
    DescribesAll (leaves.map Leaf.field) operands := by
  induction inTurn with
  | nil => exact .nil
  | cons head _ inductionHypothesis =>
    rw [List.map_append]
    exact .cons head inductionHypothesis

/-- Every operation builds a document about the fields of its leaves. -/
theorem backend_describes :
    Invariant backend (fun _ leaves document _ => Describes (leaves.map Leaf.field) document) where
  relation {leaf value state document after} _ related := by
    unfold Backend.relate at related
    split at related
    · obtain ⟨rfl, -⟩ := Build.outcome_pure_eq_ok_iff.mp related
      exact describes_search leaf.field _
    · obtain ⟨rfl, -⟩ := Build.outcome_pure_eq_ok_iff.mp related
      exact describes_search leaf.field _
    · obtain ⟨rfl, -⟩ := Build.outcome_pure_eq_ok_iff.mp related
      exact describes_relate _ leaf.field (isPlain_datum value)
  conjunction inTurn joined := by
    obtain ⟨nonempty, rfl⟩ := combine_eq_ok (congrArg Prod.fst joined)
    exact .conjunction nonempty (describesAll_of_builtInTurn inTurn)
  disjunction inTurn joined := by
    obtain ⟨nonempty, rfl⟩ := combine_eq_ok (congrArg Prod.fst joined)
    exact .disjunction nonempty (describesAll_of_builtInTurn inTurn)
  negation described negated := by
    obtain ⟨rfl, -⟩ := Build.outcome_pure_eq_ok_iff.mp negated
    exact .negation described

/-- A document that a connective builds from other documents. -/
inductive IsConnection : Datum → Prop where
  | conjunction {operands : List Datum} : operands ≠ [] →
      IsConnection (single "$and" (.array operands))
  | disjunction {operands : List Datum} : operands ≠ [] →
      IsConnection (single "$or" (.array operands))
  | negation (operand : Datum) : IsConnection (single "$nor" (.array [operand]))

/-- A document with one key that is not taken for an operator, unless a connective built it. -/
def HasApartKey (found : Datum) : Prop :=
  IsConnection found ∨ ∃ key value, found = single key value ∧ key.toList.head? ≠ some '$'

/-- A built document is a connection or a condition on one of its fields. -/
theorem Describes.origin {fields : List String} {found : Datum}
    (described : Describes fields found) :
    IsConnection found ∨
      ∃ field ∈ fields, ∃ value, IsPlain value ∧ found = single field value := by
  cases described with
  | condition plain => exact .inr ⟨_, List.mem_singleton_self _, _, plain, rfl⟩
  | conjunction nonempty _ => exact .inl (.conjunction nonempty)
  | disjunction nonempty _ => exact .inl (.disjunction nonempty)
  | negation operand => exact .inl (.negation _)

/-- No connection is a condition on a plain value. -/
theorem IsConnection.not_condition {key : String} {value : Datum} (plain : IsPlain value) :
    ¬ IsConnection (single key value) := by
  intro connection
  generalize shape : single key value = found at connection
  cases connection with
  | conjunction _ | disjunction _ | negation _ =>
    obtain ⟨-, same⟩ := Prod.mk.inj (List.cons.inj (Datum.document.inj shape)).1
    exact plain _ same

/-- Nothing but the fields that a filter spells decides whether its document has a condition whose
key is taken for an operator. -/
theorem Describes.hasApartKey_iff {fields : List String} {document : Datum}
    (described : Describes fields document) :
    (∀ found, InPredicatePosition document found → HasApartKey found) ↔
      ∀ field ∈ fields, field.toList.head? ≠ some '$' := by
  constructor
  · intro apart field listed
    obtain ⟨value, plain, position⟩ := described.exists_condition listed
    rcases apart _ position with connection | ⟨key, other, same, noDollar⟩
    · exact absurd connection (IsConnection.not_condition plain)
    · obtain ⟨rfl, -⟩ := Prod.mk.inj (List.cons.inj (Datum.document.inj same)).1
      exact noDollar
  · intro noDollar found position
    obtain ⟨own, within, itself⟩ := described.of_position position
    rcases itself.origin with connection | ⟨field, listed, value, -, rfl⟩
    · exact .inl connection
    · exact .inr ⟨field, value, rfl, noDollar field (within listed)⟩

/-- A field that starts with a dollar sign becomes the key of an operator. -/
theorem field_becomes_operator :
    ¬ ∀ text document, (Build.outcome (compileText backend text) ()).1 = .ok document →
      ∀ found, InPredicatePosition document found → HasApartKey found := by
  intro apart
  have parsed : parse "$where=1" =
      .ok [[[.mk false (.compare ⟨⟨.text, "$where", 0⟩, []⟩ "="
        (some ⟨⟨.integer, "1", 7⟩, []⟩))]]] := rfl
  have compiled : (Build.outcome (compileText backend "$where=1") ()).1 =
      .ok (single "$where" (.integer .int32 1)) := by
    rw [compileText, parsed]
    rfl
  rcases apart _ _ compiled _ .whole with connection | ⟨key, value, same, noDollar⟩
  · refine IsConnection.not_condition ?_ connection
    intro items same
    cases same
  · obtain ⟨rfl, -⟩ := Prod.mk.inj (List.cons.inj (Datum.document.inj same)).1
    exact noDollar rfl

/-- The keys in predicate position of a compiled filter come from connectives over at least one
document, or are fields that the filter spells; every such field is the key of a condition. So no
field is taken for an operator exactly when none starts with a dollar sign. -/
theorem keys_are_connectives_or_fields {text : String} {document : Datum}
    (compiled : (Build.outcome (compileText backend text) ()).1 = .ok document) :
    ∃ expression, parse text = .ok expression ∧
      (∀ found, InPredicatePosition document found →
        IsConnection found ∨ ∃ leaf ∈ Expression.leaves .filter expression,
          ∃ value, IsPlain value ∧ found = single leaf.field value) ∧
      (∀ leaf ∈ Expression.leaves .filter expression,
        ∃ value, IsPlain value ∧ InPredicatePosition document (single leaf.field value)) ∧
      ((∀ found, InPredicatePosition document found → HasApartKey found) ↔
        ∀ leaf ∈ Expression.leaves .filter expression, leaf.field.toList.head? ≠ some '$') := by
  obtain ⟨expression, parsed, described⟩ := backend_describes.compileText (Prod.ext compiled rfl)
  refine ⟨expression, parsed, ?_, ?_, ?_⟩
  · intro found position
    obtain ⟨own, within, itself⟩ := described.of_position position
    rcases itself.origin with connection | ⟨field, listed, value, plain, rfl⟩
    · exact .inl connection
    · obtain ⟨leaf, member, rfl⟩ := List.mem_map.mp (within listed)
      exact .inr ⟨leaf, member, value, plain, rfl⟩
  · intro leaf member
    exact described.exists_condition (List.mem_map_of_mem member)
  · rw [described.hasApartKey_iff]
    simp only [List.mem_map, forall_exists_index, and_imp, forall_apply_eq_imp_iff₂]

/-- A negated condition on a field that starts with a dollar sign, beside one that does not. -/
theorem keys_are_connectives_or_fields_dollar :
    ∃ document value, (Build.outcome (compileText backend "a=b AND NOT $where:c") ()).1 =
        .ok document ∧
      IsPlain value ∧ InPredicatePosition document (single "$where" value) := by
  have parsed : parse "a=b AND NOT $where:c" =
      .ok [[[.mk false (.compare ⟨⟨.text, "a", 0⟩, []⟩ "=" (some ⟨⟨.text, "b", 2⟩, []⟩))]],
        [[.mk true (.compare ⟨⟨.text, "$where", 12⟩, []⟩ ":"
          (some ⟨⟨.text, "c", 19⟩, []⟩))]]] := rfl
  have compiled : (Build.outcome (compileText backend "a=b AND NOT $where:c") ()).1 =
      .ok (single "$and" (.array [single "a" (.string "string" "b"),
        single "$nor" (.array [single "$where"
          (single "$elemMatch" (single "$eq" (.string "string" "c")))])])) := by
    rw [compileText, parsed]
    rfl
  obtain ⟨expression, again, -, conditions, -⟩ := keys_are_connectives_or_fields compiled
  obtain rfl := Except.ok.inj (parsed.symm.trans again)
  obtain ⟨value, plain, position⟩ :=
    conditions ⟨"$where", .has, ⟨⟨.text, "c", 19⟩, []⟩⟩
      (by simp [Expression.leaves, Sequence.leaves, Factor.leaves, Term.leaves, Simple.leaves,
        Comparator.ofSign?, Member.text, Member.parts])
  exact ⟨_, value, compiled, plain, position⟩

end FilterQuery.Document
