import FilterQuery.Proofs.Sql.Ledger

/-!
# Arguments in the order of the filter

A tree that compiles binds one argument for each of its leaves, from left to right, and mentions
each of them once, in the same order.
-/

namespace FilterQuery.Sql

/-- Arguments that are bound one after the other, each for one leaf. -/
inductive Numbered (options : Options) : Counter → List Leaf → Arguments → Prop where
  | nil {count : Counter} : Numbered options count [] []
  | cons {count : Counter} {leaf : Leaf} {value : Value} {leaves : List Leaf}
      {arguments : Arguments} :
      leaf.value.resolve = .ok value → Numbered options (count + 1) leaves arguments →
      Numbered options count (leaf :: leaves)
        ((options.argumentName count, boundTo leaf.comparator value) :: arguments)

namespace Numbered

variable {options : Options} {count : Counter} {leaves : List Leaf} {arguments : Arguments}

/-- Arguments bound after others go on with their numbers. -/
theorem append {more : List Leaf} {others : Arguments}
    (first : Numbered options count leaves arguments)
    (second : Numbered options (count + leaves.length) more others) :
    Numbered options count (leaves ++ more) (arguments ++ others) := by
  induction first with
  | nil => exact second
  | @cons count leaf value leaves arguments resolved _ inductionHypothesis =>
    refine .cons resolved (inductionHypothesis ?_)
    rwa [List.length_cons, Nat.add_comm leaves.length 1, ← Nat.add_assoc] at second

/-- The names are those that follow the arguments bound before, without a gap. -/
theorem names (numbered : Numbered options count leaves arguments) :
    arguments.names = (List.range' count leaves.length).map options.argumentName := by
  induction numbered with
  | nil => rfl
  | cons _ _ inductionHypothesis =>
    rw [List.length_cons, List.range'_succ, List.map_cons, ← inductionHypothesis]
    rfl

theorem nodup (numbered : Numbered options count leaves arguments) : arguments.names.Nodup := by
  rw [numbered.names]
  exact List.Nodup.map options.argumentName_injective List.nodup_range'

/-- Every leaf has the argument of its place. -/
theorem getElem? (numbered : Numbered options count leaves arguments) {place : Nat} {leaf : Leaf}
    (isLeaf : leaves[place]? = some leaf) :
    ∃ value, leaf.value.resolve = .ok value ∧
      arguments[place]? =
        some (options.argumentName (count + place), boundTo leaf.comparator value) := by
  induction numbered generalizing place with
  | nil => cases isLeaf
  | @cons count first value leaves arguments resolved _ inductionHypothesis =>
    cases place with
    | zero =>
      cases isLeaf
      exact ⟨value, resolved, rfl⟩
    | succ place =>
      obtain ⟨found, isFound, isArgument⟩ := inductionHypothesis isLeaf
      rw [Nat.add_assoc, Nat.add_comm 1] at isArgument
      exact ⟨found, isFound, isArgument⟩

end Numbered

/-- A call that binds the next argument to a value, enters it, and builds a clause that mentions
it. -/
def BindsNext (options : Options) (value : Datum) (call : Build Ledger NoOperands Clause) : Prop :=
  ∀ ledger, ∃ clause, call.outcome ledger = (.ok clause, ledger.enter options value) ∧
    clause.arguments = options.entry value ledger.count ∧
    Mentions clause.text clause.arguments.names

section Calls

variable {options : Options} (named : isName options.placeholder.toList = true) (field : String)

include named

theorem bindsNext_compare (comparator : Comparator) (value : Value) :
    BindsNext options value.datum ((recording options).compare comparator field value) :=
  fun ledger => ⟨_, rfl, rfl, .comparison named field ledger.count comparator⟩

theorem bindsNext_prefixSearch (literal : String) :
    BindsNext options (startPattern literal) ((recording options).prefixSearch field literal) :=
  fun ledger => ⟨_, rfl, rfl, .like named field ledger.count⟩

theorem bindsNext_suffixSearch (literal : String) :
    BindsNext options (endPattern literal) ((recording options).suffixSearch field literal) :=
  fun ledger => ⟨_, rfl, rfl, .like named field ledger.count⟩

/-- Setting a field against a value binds what the value asks for. -/
theorem bindsNext_relate (comparator : Comparator) (value : Value) :
    BindsNext options (boundTo comparator value)
      ((recording options).relate comparator field value) := by
  unfold Backend.relate boundTo
  generalize value.wildcardForm = form
  cases comparator with
  | equal =>
    cases form with
    | startsWith literal => exact bindsNext_prefixSearch named field literal
    | endsWith literal => exact bindsNext_suffixSearch named field literal
    | plain => exact bindsNext_compare named field .equal value
  | less | lessEqual | greaterEqual | greater | notEqual | has =>
    exact bindsNext_compare named field _ value

end Calls

/-- A clause about some leaves was built between two states of the ledger: exactly its arguments
were entered meanwhile, one for each leaf in their order, and it mentions them in that order. -/
structure Entered (options : Options) (before : Ledger) (leaves : List Leaf) (clause : Clause)
    (after : Ledger) : Prop where
  numbered : Numbered options before.count leaves clause.arguments
  ledger : after = ⟨before.count + leaves.length, before.bound ++ clause.arguments⟩
  mentions : Mentions clause.text clause.arguments.names

section Connectives

variable {options : Options} {before middle after : Ledger} {leaves : List Leaf}
  {operands : List Clause} {clause : Clause}

/-- The arguments of clauses that were built in turn are numbered without a gap. -/
theorem numbered_inTurn (inTurn : BuiltInTurn (Entered options) before leaves operands after) :
    Numbered options before.count leaves (operands.flatMap Clause.arguments) ∧
      after = ⟨before.count + leaves.length,
        before.bound ++ operands.flatMap Clause.arguments⟩ := by
  induction inTurn with
  | nil => exact ⟨.nil, by simp⟩
  | cons head _ inductionHypothesis =>
    obtain ⟨numbered, rfl⟩ := inductionHypothesis
    obtain ⟨first, rfl, -⟩ := head
    refine ⟨first.append numbered, ?_⟩
    simp [Nat.add_assoc]

theorem mentions_inTurn (inTurn : BuiltInTurn (Entered options) before leaves operands after) :
    List.Forall₂ (fun clause names => Mentions clause.text names) operands
      (operands.map fun clause => clause.arguments.names) := by
  induction inTurn with
  | nil => exact .nil
  | cons head _ inductionHypothesis => exact .cons head.mentions inductionHypothesis

/-- What is joined has the arguments of its operands, one operand behind the other. -/
theorem Entered.join {operator : String} {keyword : Keyword} {strength : Strength}
    (operatorLexes : Lexes operator.toList [.keyword keyword])
    (inTurn : BuiltInTurn (Entered options) before leaves operands after)
    (joined : Clause.join operator strength operands = .ok clause) :
    Entered options before leaves clause after := by
  obtain ⟨numbered, ledger⟩ := numbered_inTurn inTurn
  -- No two operands share a name here, so merging is the same as appending.
  have merged : clause.arguments = operands.flatMap Clause.arguments := by
    obtain ⟨-, -, -, isMerged⟩ := Clause.join_eq_ok joined
    rw [isMerged, Clause.mergeArguments_of_nodup numbered.nodup]
  have mentions := Mentions.join operatorLexes (mentions_inTurn inTurn) joined
  have names : (operands.map fun clause => clause.arguments.names).flatten =
      clause.arguments.names := by
    rw [merged, Arguments.names, List.map_flatMap]
    rfl
  exact ⟨merged ▸ numbered, merged ▸ ledger, names ▸ mentions⟩

theorem Entered.negate {operand : Clause} (entered : Entered options before leaves operand after) :
    Entered options before leaves operand.negate after := by
  have alone : [operand].flatMap Clause.arguments = operand.arguments := by simp
  have same : operand.negate.arguments = operand.arguments := by
    have distinct := entered.numbered.nodup
    rw [← alone] at distinct ⊢
    rw [Clause.arguments_negate, Clause.mergeArguments_of_nodup distinct]
  exact ⟨same ▸ entered.numbered, same ▸ entered.ledger, same ▸ entered.mentions.negate⟩

end Connectives

/-- Every call of the backend with a ledger enters what its clause has. -/
theorem recording_invariant {options : Options}
    (named : isName options.placeholder.toList = true) :
    Invariant (recording options) (Entered options) where
  relation := by
    intro leaf value before clause after resolved built
    obtain ⟨found, isOutcome, areArguments, mentions⟩ :=
      bindsNext_relate named leaf.field leaf.comparator value before
    rw [isOutcome] at built
    cases built
    refine ⟨?_, ?_, mentions⟩
    · rw [areArguments]
      exact .cons resolved .nil
    · rw [areArguments]
      rfl
  conjunction := by
    intro before leaves operands middle clause after inTurn built
    rw [outcome_conjunction, Prod.mk.injEq] at built
    exact built.2 ▸ .join .and inTurn built.1
  disjunction := by
    intro before leaves operands middle clause after inTurn built
    rw [outcome_disjunction, Prod.mk.injEq] at built
    exact built.2 ▸ .join .or inTurn built.1
  negation := by
    intro before leaves operand middle clause after entered built
    rw [outcome_negation] at built
    cases built
    exact entered.negate

/-- Arguments are numbered in the order of the filter. A tree that compiles when a number of
arguments has been bound binds one more for each of its leaves: the names go on from that number
without a gap, each is bound to the value of its leaf or to the pattern that the value asks for, and
the text mentions every one of them once, in increasing order. -/
theorem arguments_numbered_in_order (options : Options)
    (named : isName options.placeholder.toList = true) {expression : Expression}
    {count after : Nat} {clause : Clause}
    (compiled : Build.outcome (compileTree (backend options) expression) count =
      (.ok clause, after)) :
    after = count + (Expression.leaves .filter expression).length ∧
    clause.arguments.map Prod.fst =
      (List.range' (count + 1) (Expression.leaves .filter expression).length).map
        (fun number => options.placeholder ++ toString number) ∧
    (clause.arguments.map Prod.fst).Nodup ∧
    placeholders? clause.text = some (clause.arguments.map Prod.fst) ∧
    ∀ (place : Nat) (leaf : Leaf), (Expression.leaves .filter expression)[place]? = some leaf →
      ∃ value, leaf.value.resolve = .ok value ∧
        clause.arguments[place]? =
          some (options.placeholder ++ toString (count + place + 1),
            boundTo leaf.comparator value) := by
  have sameCalls : SameCalls options fun _ => True := recording_sameCalls fun _ _ _ => trivial
  obtain ⟨ledger, recorded, rfl⟩ :=
    exists_recorded (sameCalls.operations.compileTree expression) compiled []
  have entered := (recording_invariant named).compileTree recorded
  refine ⟨?_, ?_, entered.numbered.nodup, entered.mentions.placeholders?, ?_⟩
  · rw [entered.ledger]
  · rw [List.range'_succ_left, List.map_map]
    exact entered.numbered.names
  · intro place leaf isLeaf
    exact entered.numbered.getElem? isLeaf

/-- A search and a group of one value, after four other arguments. -/
theorem arguments_numbered_in_order_search :
    ∃ clause, Build.outcome (compileTree (backend {})
        [[[.mk false (.compare ⟨⟨.text, "a", 0⟩, []⟩ "=" (some ⟨⟨.string, "\"x*\"", 2⟩, []⟩)),
          .mk true (.compareEach ⟨⟨.text, "b", 11⟩, []⟩ ":"
            [[[.mk false (.bare ⟨⟨.boolean, "true", 14⟩, []⟩)]]])]]]) 4 = (.ok clause, 6) ∧
      placeholders? clause.text = some ["p5", "p6"] ∧
      clause.arguments[0]? = some ("p5", .string "string" "x%") := by
  have compiled : Build.outcome (compileTree (backend {})
        [[[.mk false (.compare ⟨⟨.text, "a", 0⟩, []⟩ "=" (some ⟨⟨.string, "\"x*\"", 2⟩, []⟩)),
          .mk true (.compareEach ⟨⟨.text, "b", 11⟩, []⟩ ":"
            [[[.mk false (.bare ⟨⟨.boolean, "true", 14⟩, []⟩)]]])]]]) 4 = (.ok _, 6) := rfl
  obtain ⟨-, names, -, mentioned, values⟩ := arguments_numbered_in_order {} (by decide) compiled
  refine ⟨_, compiled, ?_, ?_⟩
  · rw [mentioned, names]
    decide
  · obtain ⟨value, resolved, bound⟩ := values 0 _ rfl
    cases resolved
    exact bound

end FilterQuery.Sql
