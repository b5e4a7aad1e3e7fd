import FilterQuery.Proofs.Sql.Lexing

/-!
# Parentheses keep the meaning of clauses

A database reads the text of a clause back as what its recipe asks for. `ReadsAs strength` says what
reading some lexemes does to whatever waits before them, provided that nothing that waits binds more
tightly than `strength`. Lexemes that read as a strong operator read as any weaker one, and
parentheses make the strongest operand of any condition, so an operand needs parentheses exactly
where its own operator is weaker than the one around it.
-/

namespace FilterQuery.Sql

namespace Meaning

/-- A meaning behind a number of negations. -/
def negate (meaning : Meaning) : Nat → Meaning
  | 0 => meaning
  | count + 1 => (meaning.negate count).not

theorem negate_not (meaning : Meaning) (count : Nat) :
    meaning.not.negate count = meaning.negate (count + 1) := by
  induction count with
  | zero => rfl
  | succ count inductionHypothesis =>
    rw [negate, inductionHypothesis]
    rfl

theorem and_assoc (first second third : Meaning) :
    (first.and second).and third = first.and (second.and third) := by
  ext
  · simp [and]
  · simp [and, Bool.and_assoc]

theorem or_assoc (first second third : Meaning) :
    (first.or second).or third = first.or (second.or third) := by
  ext
  · simp [or]
  · simp [or, Bool.or_assoc]

theorem all_cons (head : Meaning) (rest : List Meaning) :
    all (head :: rest) = head.and (all rest) := by
  ext <;> simp [all, and]

theorem any_cons (head : Meaning) (rest : List Meaning) :
    any (head :: rest) = head.or (any rest) := by
  ext <;> simp [any, or]

theorem all_singleton (meaning : Meaning) : all [meaning] = meaning := by
  ext <;> simp [all]

theorem any_singleton (meaning : Meaning) : any [meaning] = meaning := by
  ext <;> simp [any]

end Meaning

theorem Formula.meaning_negate (formula : Formula) (count : Nat) :
    (formula.negate count).meaning = formula.meaning.negate count := by
  induction count with
  | zero => rfl
  | succ count inductionHypothesis =>
    rw [Formula.negate, Formula.meaning, inductionHypothesis, Meaning.negate]

namespace Reader

/-- What the left side of a conjunction that waits makes of its right side. -/
def conjoined (conjunction : Option Formula) (meaning : Meaning) : Meaning :=
  match conjunction with
  | none => meaning
  | some left => left.meaning.and meaning

/-- What the left side of a disjunction that waits makes of its right side. -/
def disjoined (disjunction : Option Formula) (meaning : Meaning) : Meaning :=
  match disjunction with
  | none => meaning
  | some left => left.meaning.or meaning

theorem Level.meaning_conjoin (level : Level) (formula : Formula) :
    (level.conjoin formula).meaning =
      conjoined level.conjunction (formula.meaning.negate level.negations) := by
  unfold Level.conjoin
  cases level.conjunction <;> simp [conjoined, Formula.meaning, Formula.meaning_negate]

theorem Level.meaning_disjoin (level : Level) (formula : Formula) :
    (level.disjoin formula).meaning =
      disjoined level.disjunction (level.conjoin formula).meaning := by
  unfold Level.disjoin
  cases level.disjunction <;> simp [disjoined, Formula.meaning]

theorem State.run?_append (state : State) (first second : List Lexeme) :
    state.run? (first ++ second) = (state.run? first).bind (·.run? second) := by
  induction first generalizing state with
  | nil => rfl
  | cons lexeme first inductionHypothesis =>
    simp only [List.cons_append, State.run?]
    cases state.read? lexeme with
    | none => rfl
    | some next => exact inductionHypothesis next

/-- After a complete operand, connectives and closing parentheses are read as such. -/
theorem State.run?_connect {outer : List Level} {level : Level} {focus : Focus}
    {formula : Formula} {lexeme : Lexeme} (complete : focus.formula? = some formula)
    (connects : lexeme ∈ [.keyword .and, .keyword .or, .rightParen]) (rest : List Lexeme) :
    State.run? ⟨outer, level, focus⟩ (lexeme :: rest) =
      (State.connect? ⟨outer, level, focus⟩ formula lexeme).bind (·.run? rest) := by
  have reads : State.read? ⟨outer, level, focus⟩ lexeme =
      State.connect? ⟨outer, level, focus⟩ formula lexeme := by
    simp only [List.mem_cons, List.not_mem_nil, or_false] at connects
    cases focus with
    | operand side => cases complete
    | any side => cases complete
    | part side within parts => cases complete
    | path side within parts =>
      rcases side with _ | ⟨left, relation⟩ <;> cases within <;> cases complete
      rcases connects with rfl | rfl | rfl <;> rfl
    | value side operand =>
      rcases side with _ | ⟨left, relation⟩ <;> cases complete
      rcases connects with rfl | rfl | rfl <;> rfl
    | formula found =>
      cases complete
      rcases connects with rfl | rfl | rfl <;> rfl
  rw [State.run?, reads]
  cases State.connect? ⟨outer, level, focus⟩ formula lexeme <;> rfl

/-- Lexemes that are read as one operand of a connective, whatever waits for it. -/
def ReadsOperand (lexemes : List Lexeme) (meaning : Meaning) : Prop :=
  ∀ outer level, ∃ negations focus formula,
    State.run? ⟨outer, level, .operand none⟩ lexemes =
      some ⟨outer, { level with negations := negations }, focus⟩ ∧
    focus.formula? = some formula ∧
    formula.meaning.negate negations = meaning.negate level.negations

/-- Lexemes that are read as operands of a conjunction, where no negation waits for them. -/
def ReadsConjunction (lexemes : List Lexeme) (meaning : Meaning) : Prop :=
  ∀ outer disjunction conjunction, ∃ level focus formula,
    State.run? ⟨outer, ⟨disjunction, conjunction, 0⟩, .operand none⟩ lexemes =
      some ⟨outer, level, focus⟩ ∧
    level.disjunction = disjunction ∧
    focus.formula? = some formula ∧
    (level.conjoin formula).meaning = conjoined conjunction meaning

/-- Lexemes that are read as operands of a disjunction, where neither a negation nor a conjunction
waits for them. -/
def ReadsDisjunction (lexemes : List Lexeme) (meaning : Meaning) : Prop :=
  ∀ outer disjunction, ∃ level focus formula,
    State.run? ⟨outer, ⟨disjunction, none, 0⟩, .operand none⟩ lexemes =
      some ⟨outer, level, focus⟩ ∧
    focus.formula? = some formula ∧
    (level.disjoin formula).meaning = disjoined disjunction meaning

/-- How the lexemes of a clause of a given strength are read. -/
def ReadsAs : Strength → List Lexeme → Meaning → Prop
  | .unknown, _, _ => False
  | .disjunction, lexemes, meaning => ReadsDisjunction lexemes meaning
  | .conjunction, lexemes, meaning => ReadsConjunction lexemes meaning
  | .negation, lexemes, meaning => ReadsOperand lexemes meaning
  | .comparison, lexemes, meaning => ReadsOperand lexemes meaning
  | .like, lexemes, meaning => ReadsOperand lexemes meaning

variable {lexemes : List Lexeme} {meaning : Meaning}

theorem ReadsOperand.conjunction (reads : ReadsOperand lexemes meaning) :
    ReadsConjunction lexemes meaning := by
  intro outer disjunction conjunction
  obtain ⟨negations, focus, formula, run, complete, same⟩ :=
    reads outer ⟨disjunction, conjunction, 0⟩
  refine ⟨_, focus, formula, run, rfl, complete, ?_⟩
  rw [Level.meaning_conjoin, same]
  rfl

theorem ReadsConjunction.disjunction (reads : ReadsConjunction lexemes meaning) :
    ReadsDisjunction lexemes meaning := by
  intro outer disjunction
  obtain ⟨level, focus, formula, run, kept, complete, same⟩ := reads outer disjunction none
  refine ⟨level, focus, formula, run, complete, ?_⟩
  rw [Level.meaning_disjoin, same, kept]
  rfl

/-- Lexemes of a known strength are read as operands of a disjunction. -/
theorem ReadsAs.disjunction {strength : Strength} (reads : ReadsAs strength lexemes meaning) :
    ReadsDisjunction lexemes meaning := by
  cases strength with
  | unknown => exact absurd reads id
  | disjunction => exact reads
  | conjunction => exact ReadsConjunction.disjunction reads
  | negation | comparison | like => exact (ReadsOperand.conjunction reads).disjunction

/-- An operand may stand wherever its operator is at least as strong as the one around it. -/
theorem ReadsAs.weaken {strength outer : Strength} (reads : ReadsAs strength lexemes meaning)
    (known : outer ≠ .unknown) (stronger : outer.rank ≤ strength.rank) :
    ReadsAs outer lexemes meaning := by
  cases outer with
  | unknown => exact absurd rfl known
  | disjunction => exact reads.disjunction
  | conjunction =>
    cases strength with
    | unknown | disjunction => exact absurd stronger (by decide)
    | conjunction => exact reads
    | negation | comparison | like => exact ReadsOperand.conjunction reads
  | negation | comparison | like =>
    cases strength with
    | unknown | disjunction | conjunction => exact absurd stronger (by decide)
    | negation | comparison | like => exact reads

/-- An operand of the strongest kind may stand anywhere. -/
theorem ReadsOperand.readsAs {outer : Strength} (reads : ReadsOperand lexemes meaning)
    (known : outer ≠ .unknown) : ReadsAs outer lexemes meaning := by
  have strongest : ReadsAs .like lexemes meaning := reads
  exact strongest.weaken known (by cases outer <;> decide)

/-- Parentheses make one operand of any condition. -/
theorem ReadsDisjunction.parenthesised (reads : ReadsDisjunction lexemes meaning) :
    ReadsOperand (.leftParen :: (lexemes ++ [.rightParen])) meaning := by
  intro outer level
  obtain ⟨inner, focus, formula, run, complete, same⟩ := reads (level :: outer) none
  refine ⟨level.negations, .formula (inner.disjoin formula), inner.disjoin formula, ?_, rfl, ?_⟩
  · have opened :
        State.run? ⟨outer, level, .operand none⟩ (.leftParen :: (lexemes ++ [.rightParen])) =
          State.run? ⟨level :: outer, ⟨none, none, 0⟩, .operand none⟩
            (lexemes ++ [.rightParen]) := rfl
    rw [opened, State.run?_append, run, Option.bind_some, State.run?_connect complete (by decide)]
    rfl
  · rw [same]
    rfl

/-- A negation in front makes one operand of another. -/
theorem ReadsOperand.negation (reads : ReadsOperand lexemes meaning) :
    ReadsOperand (.keyword .not :: lexemes) meaning.not := by
  intro outer level
  obtain ⟨negations, focus, formula, run, complete, same⟩ :=
    reads outer { level with negations := level.negations + 1 }
  refine ⟨negations, focus, formula, run, complete, ?_⟩
  rw [same, Meaning.negate_not]

/-- Operands with `AND` between them are read as their conjunction. -/
theorem readsConjunction_join {operands : List (List Lexeme)} {meanings : List Meaning}
    (reads : List.Forall₂ ReadsConjunction operands meanings) (nonempty : operands ≠ []) :
    ReadsConjunction ([.keyword .and].intercalate operands) (.all meanings) := by
  induction reads with
  | nil => exact absurd rfl nonempty
  | @cons operand meaning operands meanings head tail inductionHypothesis =>
    intro outer disjunction conjunction
    obtain ⟨level, focus, formula, run, kept, complete, same⟩ :=
      head outer disjunction conjunction
    cases tail with
    | nil =>
      refine ⟨level, focus, formula, ?_, kept, complete, ?_⟩
      · rw [List.intercalate_singleton, run]
      · rw [same, Meaning.all_singleton]
    | cons next rest =>
      obtain ⟨last, focus', formula', run', kept', complete', same'⟩ :=
        inductionHypothesis (by simp) outer disjunction (some (level.conjoin formula))
      refine ⟨last, focus', formula', ?_, kept', complete', ?_⟩
      · rw [List.intercalate_cons_cons, List.append_assoc, State.run?_append, run,
          Option.bind_some, List.singleton_append, State.run?_connect complete (by decide)]
        rw [← kept] at run'
        exact run'
      · rw [same', Meaning.all_cons meaning]
        cases conjunction with
        | none => simp only [conjoined, same]
        | some left => simp only [conjoined, same, Meaning.and_assoc]

/-- Operands with `OR` between them are read as their disjunction. -/
theorem readsDisjunction_join {operands : List (List Lexeme)} {meanings : List Meaning}
    (reads : List.Forall₂ ReadsDisjunction operands meanings) (nonempty : operands ≠ []) :
    ReadsDisjunction ([.keyword .or].intercalate operands) (.any meanings) := by
  induction reads with
  | nil => exact absurd rfl nonempty
  | @cons operand meaning operands meanings head tail inductionHypothesis =>
    intro outer disjunction
    obtain ⟨level, focus, formula, run, complete, same⟩ := head outer disjunction
    cases tail with
    | nil =>
      refine ⟨level, focus, formula, ?_, complete, ?_⟩
      · rw [List.intercalate_singleton, run]
      · rw [same, Meaning.any_singleton]
    | cons next rest =>
      obtain ⟨last, focus', formula', run', complete', same'⟩ :=
        inductionHypothesis (by simp) outer (some (level.disjoin formula))
      refine ⟨last, focus', formula', ?_, complete', ?_⟩
      · rw [List.intercalate_cons_cons, List.append_assoc, State.run?_append, run,
          Option.bind_some, List.singleton_append, State.run?_connect complete (by decide)]
        exact run'
      · rw [same', Meaning.any_cons meaning]
        cases disjunction with
        | none => simp only [disjoined, same]
        | some left => simp only [disjoined, same, Meaning.or_assoc]

/-- The parts of a path are collected, in the parentheses of `ANY` as outside. -/
theorem State.run?_path (outer : List Level) (level : Level) (side : Option (Operand × Relation))
    (within : Bool) (read parts : List String) (rest : List Lexeme) (nonempty : parts ≠ []) :
    State.run? ⟨outer, level, .part side within read⟩ (pathLexemes parts ++ rest) =
      State.run? ⟨outer, level, .path side within (read ++ parts)⟩ rest := by
  induction parts generalizing read with
  | nil => exact absurd rfl nonempty
  | cons part parts inductionHypothesis =>
    cases parts with
    | nil => rfl
    | cons next parts =>
      have continued := inductionHypothesis (read ++ [part]) (by simp)
      rw [List.append_assoc, List.singleton_append] at continued
      exact continued

/-- A column on the left of a comparison is read like any path. -/
theorem State.run?_column (outer : List Level) (level : Level) (parts : List String)
    (rest : List Lexeme) (nonempty : parts ≠ []) :
    State.run? ⟨outer, level, .operand none⟩ (pathLexemes parts ++ rest) =
      State.run? ⟨outer, level, .path none false parts⟩ rest := by
  have read := State.run?_path outer level none false [] parts rest nonempty
  match parts with
  | [] => exact absurd rfl nonempty
  | [_] => exact read
  | _ :: _ :: _ => exact read

/-- A column, a relation and an argument are one operand of a connective. -/
theorem readsOperand_relation {relation : Relation} {lexeme : Lexeme}
    (sign : relation? lexeme = some relation) (parts : List String) (nonempty : parts ≠ [])
    (name : String) :
    ReadsOperand (pathLexemes parts ++ [lexeme, .argument name])
      (.ofAtom ⟨.column parts, relation, .argument name⟩) := by
  intro outer level
  refine ⟨level.negations, .value (some (.column parts, relation)) (.argument name), _, ?_, rfl,
    rfl⟩
  rw [State.run?_column outer level parts _ nonempty]
  have related : State.read? ⟨outer, level, .path none false parts⟩ lexeme =
      some ⟨outer, level, .operand (some (.column parts, relation))⟩ := by
    match lexeme, sign with
    | .relation _, rfl => rfl
    | .keyword .like, rfl => rfl
  rw [State.run?, related]
  rfl

/-- An argument that equals some element of a column is one operand of a connective. -/
theorem readsOperand_any (parts : List String) (nonempty : parts ≠ []) (name : String) :
    ReadsOperand
      ([.argument name, .relation .equal, .keyword .any] ++
        .leftParen :: (pathLexemes parts ++ [.rightParen]))
      (.ofAtom ⟨.argument name, .equal, .anyOf parts⟩) := by
  intro outer level
  refine ⟨level.negations, .value (some (.argument name, .equal)) (.anyOf parts), _, ?_, rfl, rfl⟩
  exact State.run?_path outer level (some (.argument name, .equal)) true [] parts _ nonempty

end Reader

open Reader

theorem splitList_ne_nil (separator : Char) (text : List Char) : splitList separator text ≠ [] := by
  fun_cases splitList separator text <;> simp_all

/-- Every field has a column. -/
theorem Options.path_ne_nil (options : Options) (field : String) : options.path field ≠ [] := by
  simp [Options.path, splitText, splitList_ne_nil]

/-- A text of lexemes that are read with the given strength. -/
def ReadsText (strength : Strength) (text : String) (meaning : Meaning) : Prop :=
  ∃ lexemes, Lexes text.toList lexemes ∧ ReadsAs strength lexemes meaning

section Comparisons

variable {options : Options} (named : isName options.placeholder.toList = true) (field : String)
  (bound : Nat)

include named

/-- A column with a relation and an argument behind it. -/
theorem lexes_relation {sign : String} {relation : Relation} {lexeme : Lexeme}
    (signLexes : Lexes sign.toList [lexeme]) (isSign : relation? lexeme = some relation) :
    ∃ lexemes,
      Lexes (options.column field ++ " " ++ sign ++ " " ++
        ("@" ++ options.argumentName bound)).toList lexemes ∧
      ReadsOperand lexemes
        (.ofAtom ⟨.column (options.path field), relation,
          .argument (options.argumentName bound)⟩) :=
  ⟨_, Lexes.relation named field bound signLexes,
    readsOperand_relation isSign _ (options.path_ne_nil field) _⟩

/-- A comparison is read as the relation that its comparator asks for. -/
theorem readsText_comparison (comparator : Comparator) :
    ReadsText .comparison
      (comparisonText comparator (options.column field) ("@" ++ options.argumentName bound))
      (.ofAtom (comparison (options.path field) (options.argumentName bound) comparator)) := by
  cases comparator with
  | equal => exact lexes_relation named field bound (Lexes.sign rfl rfl rfl) rfl
  | less => exact lexes_relation named field bound (Lexes.sign rfl rfl rfl) rfl
  | lessEqual => exact lexes_relation named field bound (Lexes.sign rfl rfl rfl) rfl
  | greaterEqual => exact lexes_relation named field bound (Lexes.sign rfl rfl rfl) rfl
  | greater => exact lexes_relation named field bound (Lexes.sign rfl rfl rfl) rfl
  | notEqual => exact lexes_relation named field bound (Lexes.sign rfl rfl rfl) rfl
  | has =>
    exact ⟨_, Lexes.membership named field bound,
      readsOperand_any _ (options.path_ne_nil field) _⟩

/-- A comparison with a pattern is read as one. -/
theorem readsText_like :
    ReadsText .like (likeText (options.column field) ("@" ++ options.argumentName bound))
      (.ofAtom ⟨.column (options.path field), .like, .argument (options.argumentName bound)⟩) := by
  rw [likeText_eq]
  exact lexes_relation named field bound Lexes.like rfl

end Comparisons

/-- An operand, in parentheses where it needs them, is read as an operand of the operator around
it. -/
theorem readsText_operand (outer : Strength) {clause : Clause} {meaning : Meaning}
    (known : outer ≠ .unknown) (reads : ReadsText clause.strength clause.text meaning) :
    ReadsText outer (clause.operandText outer) meaning := by
  obtain ⟨lexemes, lexes, readsAs⟩ := reads
  unfold Clause.operandText
  split
  · refine ⟨_, ?_, readsAs.disjunction.parenthesised.readsAs known⟩
    simpa using lexes.parenthesised
  · rename_i strong
    exact ⟨lexemes, lexes, readsAs.weaken known (Nat.le_of_not_lt strong)⟩

/-- The clauses of several operands are read one by one. -/
theorem readsText_operands (outer : Strength) (known : outer ≠ .unknown) {clauses : List Clause}
    {meanings : List Meaning} (nonempty : clauses ≠ [])
    (reads : List.Forall₂ (fun clause meaning => ReadsText clause.strength clause.text meaning)
      clauses meanings) :
    ∃ operands,
      List.Forall₂ (fun text lexemes => Lexes text.toList lexemes)
        (clauses.map (Clause.operandText outer)) operands ∧
      List.Forall₂ (ReadsAs outer) operands meanings ∧ operands ≠ [] := by
  have texts : List.Forall₂ (ReadsText outer) (clauses.map (Clause.operandText outer))
      meanings := by
    rw [List.forall₂_map_left_iff]
    exact reads.imp fun _ _ => readsText_operand outer known
  obtain ⟨operands, allLex, allRead⟩ := exists_lexemes texts
  refine ⟨operands, allLex, allRead, ?_⟩
  rintro rfl
  cases allRead
  cases reads
  exact nonempty rfl

/-- A conjunction of clauses is read as the conjunction of what they are read as. -/
theorem readsText_conjunction {clauses : List Clause} {meanings : List Meaning} {clause : Clause}
    (reads : List.Forall₂ (fun clause meaning => ReadsText clause.strength clause.text meaning)
      clauses meanings)
    (joined : Clause.join "AND" .conjunction clauses = .ok clause) :
    ReadsText clause.strength clause.text (.all meanings) := by
  obtain ⟨nonempty, isStrength, isText, -⟩ := Clause.join_eq_ok joined
  obtain ⟨operands, allLex, allRead, some⟩ :=
    readsText_operands .conjunction (by decide) nonempty reads
  rw [isStrength, isText]
  exact ⟨_, lexes_join Lexes.and allLex, readsConjunction_join allRead some⟩

/-- A disjunction of clauses is read as the disjunction of what they are read as. -/
theorem readsText_disjunction {clauses : List Clause} {meanings : List Meaning} {clause : Clause}
    (reads : List.Forall₂ (fun clause meaning => ReadsText clause.strength clause.text meaning)
      clauses meanings)
    (joined : Clause.join "OR" .disjunction clauses = .ok clause) :
    ReadsText clause.strength clause.text (.any meanings) := by
  obtain ⟨nonempty, isStrength, isText, -⟩ := Clause.join_eq_ok joined
  obtain ⟨operands, allLex, allRead, some⟩ :=
    readsText_operands .disjunction (by decide) nonempty reads
  rw [isStrength, isText]
  exact ⟨_, lexes_join Lexes.or allLex, readsDisjunction_join allRead some⟩

/-- The negation of a clause is read as the opposite of what the clause is read as. -/
theorem readsText_negate {clause : Clause} {meaning : Meaning}
    (reads : ReadsText clause.strength clause.text meaning) :
    ReadsText clause.negate.strength clause.negate.text meaning.not := by
  obtain ⟨lexemes, lexes, readsAs⟩ := readsText_operand .negation (by decide) reads
  refine ⟨_, ?_, ReadsOperand.negation readsAs⟩
  simpa [Clause.negate] using Lexes.not.blank lexes

mutual

/-- The clause of a recipe is read as what the recipe asks for. -/
theorem Recipe.readsText {options : Options} (named : isName options.placeholder.toList = true)
    (recipe : Recipe) {clause : Clause} (built : recipe.clause options = .ok clause) :
    ReadsText clause.strength clause.text (recipe.meaning options) := by
  match recipe with
  | .compare comparator field value bound =>
    cases built
    exact readsText_comparison named field bound comparator
  | .startsWith field literal bound =>
    cases built
    exact readsText_like named field bound
  | .endsWith field literal bound =>
    cases built
    exact readsText_like named field bound
  | .not operand =>
    obtain ⟨inner, isClause, rfl⟩ := Recipe.clause_not_iff.mp built
    exact readsText_negate (operand.readsText named isClause)
  | .and operands =>
    obtain ⟨inner, areClauses, joined⟩ := Recipe.clause_and_iff.mp built
    exact readsText_conjunction (Recipe.readsText_all named operands areClauses) joined
  | .or operands =>
    obtain ⟨inner, areClauses, joined⟩ := Recipe.clause_or_iff.mp built
    exact readsText_disjunction (Recipe.readsText_all named operands areClauses) joined

/-- The clauses of several recipes are read as what the recipes ask for. -/
theorem Recipe.readsText_all {options : Options} (named : isName options.placeholder.toList = true)
    (recipes : List Recipe) {clauses : List Clause}
    (built : Recipe.clauses options recipes = .ok clauses) :
    List.Forall₂ (fun clause meaning => ReadsText clause.strength clause.text meaning) clauses
      (Recipe.meanings options recipes) := by
  match recipes with
  | [] =>
    cases built
    exact .nil
  | recipe :: rest =>
    obtain ⟨head, others, isClause, areClauses, rfl⟩ := Recipe.clauses_cons_iff.mp built
    exact .cons (recipe.readsText named isClause) (Recipe.readsText_all named rest areClauses)

end

/-- A text that is read with some strength is a whole condition. -/
theorem ReadsText.readCondition? {strength : Strength} {text : String} {meaning : Meaning}
    (reads : ReadsText strength text meaning) :
    ∃ formula, Sql.readCondition? text = some formula ∧ formula.meaning = meaning := by
  obtain ⟨lexemes, lexes, readsAs⟩ := reads
  obtain ⟨level, focus, formula, run, complete, same⟩ := readsAs.disjunction [] none
  refine ⟨level.disjoin formula, ?_, same⟩
  have started : State.run? {} lexemes = some ⟨[], level, focus⟩ := run
  simp [Sql.readCondition?, lexes.lex?, started, State.finish?, complete]

/-- Parentheses keep the meaning of clauses. Calls whose connectives have operands build a clause;
every clause that calls build is read back, by the precedence of comparisons over `NOT` over `AND`
over `OR`, as a condition with the comparisons of the calls in their order and with the truth value
of the calls whatever those comparisons are worth; and every clause that a text compiles to is built
by calls, those that compiling the text into a term makes. -/
theorem clauses_read_as_built (options : Options)
    (named : isName options.placeholder.toList = true) :
    (∀ recipe : Recipe, recipe.hasOperands = true →
      ∃ clause, recipe.clause options = .ok clause) ∧
    (∀ (recipe : Recipe) (clause : Clause), recipe.clause options = .ok clause →
      ∃ formula, readCondition? clause.text = some formula ∧
        formula.meaning.atoms = (recipe.meaning options).atoms ∧
        ∀ truth, formula.meaning.holds truth = (recipe.meaning options).holds truth) ∧
    ∀ (text name : String) (count after : Nat) (clause : Clause),
      (compileText (backend options) text).outcome count = (.ok clause, after) →
      ∃ recipe : Recipe, recipe.clause options = .ok clause ∧
        (compileText (Predicate.backend name none) text).outcome () =
          (.ok recipe.predicate, ()) := by
  refine ⟨fun recipe => recipe.exists_clause options, ?_, ?_⟩
  · intro recipe clause built
    obtain ⟨formula, isFormula, same⟩ := (recipe.readsText named built).readCondition?
    exact ⟨formula, isFormula, by rw [same], fun truth => by rw [same]⟩
  · intro text name count after clause compiled
    exact compileText_recipe name compiled

/-- A disjunction inside a conjunction, with a column that has a qualifier and a quotation mark in
its name. -/
theorem clauses_read_as_built_nested :
    isName "arg".toList = true ∧
      ∃ formula,
        readCondition? ("(\"a\" = @arg1 OR NOT @arg2 = ANY(\"t\".\"o\"\"b\"))" ++
          " AND \"c\" LIKE @arg3") = some formula ∧
        formula.meaning.atoms =
          [⟨.column ["a"], .equal, .argument "arg1"⟩,
            ⟨.argument "arg2", .equal, .anyOf ["t", "o\"b"]⟩,
            ⟨.column ["c"], .like, .argument "arg3"⟩] := by
  have named : isName "arg".toList = true := by decide
  obtain ⟨formula, isFormula, atoms, _⟩ :=
    (clauses_read_as_built ⟨[("b", "t.o\"b")], "arg"⟩ named).2.1
      (.and [.or [.compare .equal "a" (.ofContent (.boolean true)) 0,
        .not (.compare .has "b" (.ofContent (.text "x")) 1)], .startsWith "c" "y*" 2]) _ rfl
  exact ⟨named, formula, isFormula, atoms⟩

end FilterQuery.Sql
