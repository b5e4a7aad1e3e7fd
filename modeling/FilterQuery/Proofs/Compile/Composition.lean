import FilterQuery.Compile.Predicate
import FilterQuery.Proofs.Compile.Lockstep
import FilterQuery.Proofs.Tree.Grouping

/-!
# Filters put together as text

A program that adds a condition of its own to the filter of a user does so by writing both in
parentheses. The results here say that this is safe: whatever the two texts are, as long as each is
a filter, the composed text has exactly the two trees in it, and its predicate is composed of the
two predicates.
-/

namespace FilterQuery

/-- The group of an expression that was read further on in another text. -/
def Expression.groupAt (distance : Nat) (expression : Expression) : Simple :=
  .group (Expression.mapPosition (· + distance) expression)

namespace Parser

/-- The expression that the rest of a text spells from a state of the parser, if it does. The rest
starts at `position`, and not behind a comparator. -/
def readFrom? (state : State) (position : Nat) (text : List Char) : Option Expression :=
  if (scanFrom position false 0 text).strays = [] then
    (run state (scanFrom position false 0 text).tokens).toOption
  else none

theorem readFrom?_eq_some_iff {state : State} {position : Nat} {text : List Char}
    {expression : Expression} :
    readFrom? state position text = some expression ↔
      (scanFrom position false 0 text).strays = [] ∧
        run state (scanFrom position false 0 text).tokens = .ok expression := by
  unfold readFrom?
  by_cases clean : (scanFrom position false 0 text).strays = []
  · rw [if_pos clean]
    cases run state (scanFrom position false 0 text).tokens with
    | error refused => simp [Except.toOption]
    | ok found => simp [Except.toOption, clean]
  · simp [clean]

theorem scanFrom_rightParen (position : Nat) (after : Bool) (more : List Char) :
    scanFrom position after 0 (')' :: more) =
      Scan.append ⟨[⟨.rightParen, ")", position⟩], []⟩ (scanFrom (position + 1) false 0 more) :=
  rfl

/-- A filter in parentheses is read as it is read alone, up to the closing parenthesis. -/
theorem readFrom?_group {text : List Char} {expression : Expression}
    (reads : readFrom? {} 0 text = some expression) (frame : Frame) (outside : List Frame)
    (position : Nat) (more : List Char) :
    readFrom? { frames := frame :: outside } position (text ++ ')' :: more) =
      readFrom?
        ⟨outside, frame.outer,
          .closed (frame.opening.term (Expression.mapPosition (· + position) expression))⟩
        (position + Text.utf8Length text + 1) more := by
  obtain ⟨clean, complete⟩ := readFrom?_eq_some_iff.mp reads
  have moved : scanFrom position false 0 text =
      (scanFrom 0 false 0 text).mapPosition (· + position) := by
    have shifted := scanFrom_add 0 position false 0 text
    rwa [Nat.zero_add] at shifted
  have cleanThere : (scanFrom position false 0 text).strays = [] := by
    simp [moved, Scan.mapPosition, clean]
  have completeThere : run {} (scanFrom position false 0 text).tokens =
      .ok (Expression.mapPosition (· + position) expression) := by
    rw [moved]
    exact run_mapPosition (· + position) complete
  obtain ⟨after, read⟩ :=
    scanFrom_append endsTokens_rightParen more (Nat.zero_le text.length) cleanThere
  rw [scanFrom_rightParen] at read
  unfold readFrom?
  rw [read]
  simp only [Scan.append, cleanThere, List.nil_append, List.singleton_append]
  rw [← run_within completeThere frame outside]
  rfl

/-- Two filters in parentheses with a word between them are read one after the other. The word is
given by what it does to the state behind the first of them. -/
theorem readFrom?_joined {first second joint : List Char} {left right : Expression}
    {width : Nat} {outer : Term → Progress}
    (joins : ∀ term position rest,
      readFrom? ⟨[], {}, .closed term⟩ position (joint ++ rest) =
        readFrom? { frames := [⟨.group false, outer term⟩] } (position + width) rest)
    (firstReads : readFrom? {} 0 first = some left)
    (secondReads : readFrom? {} 0 second = some right) :
    readFrom? {} 0 ('(' :: (first ++ ')' :: (joint ++ (second ++ [')'])))) =
      some ((outer (.mk false (left.groupAt 1))).addTerm
        (.mk false (right.groupAt (Text.utf8Length first + width + 2)))).expression := by
  have place : 1 + Text.utf8Length first + 1 + width = Text.utf8Length first + width + 2 := by
    omega
  calc
    readFrom? {} 0 ('(' :: (first ++ ')' :: (joint ++ (second ++ [')'])))) =
        readFrom? ⟨[], {}, .closed (.mk false (left.groupAt 1))⟩
          (1 + Text.utf8Length first + 1) (joint ++ (second ++ [')'])) :=
      readFrom?_group firstReads ⟨.group false, {}⟩ [] 1 (joint ++ (second ++ [')']))
    _ = readFrom? { frames := [⟨.group false, outer (.mk false (left.groupAt 1))⟩] }
          (Text.utf8Length first + width + 2) (second ++ [')']) := by
      rw [joins, place]
    _ = some ((outer (.mk false (left.groupAt 1))).addTerm
          (.mk false (right.groupAt (Text.utf8Length first + width + 2)))).expression :=
      readFrom?_group secondReads ⟨.group false, outer (.mk false (left.groupAt 1))⟩ []
        (Text.utf8Length first + width + 2) []

end Parser

theorem parse_eq_ok_iff {text : String} {expression : Expression} :
    parse text = .ok expression ↔
      Text.isBlank text = false ∧ Parser.readFrom? {} 0 text.toList = some expression := by
  rw [Parser.readFrom?_eq_some_iff]
  unfold parse tokenize parseTokens scan
  by_cases blank : Text.isBlank text = true
  · simp [blank]
  · simp only [blank]
    cases found : (scanFrom 0 false 0 text.toList).strays with
    | cons stray strays => simp
    | nil =>
      cases ran : Parser.run {} (scanFrom 0 false 0 text.toList).tokens with
      | ok expression => simp [ran]
      | error refused => cases refused <;> simp [ran]

/-- A complete expression has at least one sequence. -/
theorem Parser.ne_nil_of_run {state : State} {tokens : List Token} {expression : Expression}
    (complete : run state tokens = .ok expression) : expression ≠ [] := by
  induction tokens generalizing state with
  | nil =>
    unfold run State.finish? at complete
    split at complete
    · next found finished =>
      obtain rfl : found = expression := by simpa using complete
      split at finished
      · obtain rfl := Option.some.inj finished
        simp [Progress.expression, Progress.closeSequence]
      · cases finished
    · cases complete
  | cons token rest inductionHypothesis =>
    rw [run] at complete
    split at complete
    · exact inductionHypothesis complete
    · cases complete

theorem ne_nil_of_parse {text : String} {expression : Expression}
    (parsed : parse text = .ok expression) : expression ≠ [] := by
  obtain ⟨-, reads⟩ := parse_eq_ok_iff.mp parsed
  obtain ⟨-, complete⟩ := Parser.readFrom?_eq_some_iff.mp reads
  exact Parser.ne_nil_of_run complete

section Texts

variable {first second : String} {left right : Expression}

theorem parse_group (parsed : parse first = .ok left) :
    parse ("(" ++ first ++ ")") = .ok [[[.mk false (left.groupAt 1)]]] := by
  obtain ⟨-, reads⟩ := parse_eq_ok_iff.mp parsed
  refine parse_eq_ok_iff.mpr ⟨by simp [Text.isBlank, Text.isSpace], ?_⟩
  have characters : ("(" ++ first ++ ")").toList = '(' :: (first.toList ++ [')']) := by
    simp [String.toList_append]
  rw [characters]
  exact Parser.readFrom?_group reads ⟨.group false, {}⟩ [] 1 []

theorem parse_negation (parsed : parse first = .ok left) :
    parse ("NOT (" ++ first ++ ")") = .ok [[[.mk true (left.groupAt 5)]]] := by
  obtain ⟨-, reads⟩ := parse_eq_ok_iff.mp parsed
  refine parse_eq_ok_iff.mpr ⟨by simp [Text.isBlank, Text.isSpace], ?_⟩
  have characters : ("NOT (" ++ first ++ ")").toList =
      "NOT (".toList ++ (first.toList ++ [')']) := by
    simp [String.toList_append]
  rw [characters]
  exact Parser.readFrom?_group reads ⟨.group true, {}⟩ [] 5 []

theorem parse_conjunction (firstParsed : parse first = .ok left)
    (secondParsed : parse second = .ok right) :
    parse ("(" ++ first ++ ") AND (" ++ second ++ ")") =
      .ok [[[.mk false (left.groupAt 1)]],
        [[.mk false (right.groupAt (Text.utf8Length first.toList + 8))]]] := by
  obtain ⟨-, firstReads⟩ := parse_eq_ok_iff.mp firstParsed
  obtain ⟨-, secondReads⟩ := parse_eq_ok_iff.mp secondParsed
  refine parse_eq_ok_iff.mpr ⟨by simp [Text.isBlank, Text.isSpace], ?_⟩
  have characters : ("(" ++ first ++ ") AND (" ++ second ++ ")").toList =
      '(' :: (first.toList ++ ')' :: (" AND (".toList ++ (second.toList ++ [')']))) := by
    simp [String.toList_append]
  have joins : ∀ term position rest,
      Parser.readFrom? ⟨[], {}, .closed term⟩ position (" AND (".toList ++ rest) =
        Parser.readFrom? { frames := [⟨.group false, { sequences := [[[term]]] }⟩] }
          (position + 6) rest := fun _ _ _ => rfl
  rw [characters]
  exact Parser.readFrom?_joined joins firstReads secondReads

theorem parse_disjunction (firstParsed : parse first = .ok left)
    (secondParsed : parse second = .ok right) :
    parse ("(" ++ first ++ ") OR (" ++ second ++ ")") =
      .ok [[[.mk false (left.groupAt 1),
        .mk false (right.groupAt (Text.utf8Length first.toList + 7))]]] := by
  obtain ⟨-, firstReads⟩ := parse_eq_ok_iff.mp firstParsed
  obtain ⟨-, secondReads⟩ := parse_eq_ok_iff.mp secondParsed
  refine parse_eq_ok_iff.mpr ⟨by simp [Text.isBlank, Text.isSpace], ?_⟩
  have characters : ("(" ++ first ++ ") OR (" ++ second ++ ")").toList =
      '(' :: (first.toList ++ ')' :: (" OR (".toList ++ (second.toList ++ [')']))) := by
    simp [String.toList_append]
  have joins : ∀ term position rest,
      Parser.readFrom? ⟨[], {}, .closed term⟩ position (" OR (".toList ++ rest) =
        Parser.readFrom? { frames := [⟨.group false, { terms := [term] }⟩] }
          (position + 5) rest := fun _ _ _ => rfl
  rw [characters]
  exact Parser.readFrom?_joined joins firstReads secondReads

end Texts

section Predicates

variable {State Failure Predicate : Type} (backend : Backend State Failure Predicate)
  {first second : String} {left right : Expression}

theorem compileText_eq (parsed : parse first = .ok left) :
    compileText backend first = left.compileIn backend .filter := by
  have nonempty : left.isEmpty = false := by simpa using ne_nil_of_parse parsed
  simp [compileText, parsed, compileTree, nonempty]

theorem compile_groupAt (context : Context) (distance : Nat) (expression : Expression) :
    (expression.groupAt distance).compile backend context =
      expression.compileIn backend context := by
  simp only [Expression.groupAt, Simple.compile, Expression.compileParts_mapPosition,
    Expression.compileIn]

/-- A filter in parentheses has the predicate of the filter. -/
theorem compileText_group (parsed : parse first = .ok left) :
    compileText backend ("(" ++ first ++ ")") = compileText backend first := by
  rw [compileText_eq backend (parse_group parsed), compileText_eq backend parsed]
  simp [Expression.compileIn, Expression.compileParts, Sequence.compileParts, Factor.compileParts,
    Term.compile, compile_groupAt, joinPredicates]

/-- The predicate of a negated filter is the negation of its predicate. -/
theorem compileText_negation (parsed : parse first = .ok left) :
    compileText backend ("NOT (" ++ first ++ ")") =
      compileText backend first >>= fun predicate =>
        ExceptT.adapt CompileError.combination (backend.negation predicate) := by
  rw [compileText_eq backend (parse_negation parsed), compileText_eq backend parsed]
  simp [Expression.compileIn, Expression.compileParts, Sequence.compileParts, Factor.compileParts,
    Term.compile, compile_groupAt, joinPredicates]

/-- The predicate of two filters joined by `AND` is the conjunction of their predicates. -/
theorem compileText_conjunction (firstParsed : parse first = .ok left)
    (secondParsed : parse second = .ok right) :
    compileText backend ("(" ++ first ++ ") AND (" ++ second ++ ")") =
      compileText backend first >>= fun predicate₁ =>
        compileText backend second >>= fun predicate₂ =>
          ExceptT.adapt CompileError.combination
            (backend.conjunction [predicate₁, predicate₂]) := by
  rw [compileText_eq backend (parse_conjunction firstParsed secondParsed),
    compileText_eq backend firstParsed, compileText_eq backend secondParsed]
  simp [Expression.compileIn, Expression.compileParts, Sequence.compileParts, Factor.compileParts,
    Term.compile, compile_groupAt, joinPredicates]

/-- The predicate of two filters joined by `OR` is the disjunction of their predicates. -/
theorem compileText_disjunction (firstParsed : parse first = .ok left)
    (secondParsed : parse second = .ok right) :
    compileText backend ("(" ++ first ++ ") OR (" ++ second ++ ")") =
      compileText backend first >>= fun predicate₁ =>
        compileText backend second >>= fun predicate₂ =>
          ExceptT.adapt CompileError.combination
            (backend.disjunction [predicate₁, predicate₂]) := by
  rw [compileText_eq backend (parse_disjunction firstParsed secondParsed),
    compileText_eq backend firstParsed, compileText_eq backend secondParsed]
  simp [Expression.compileIn, Expression.compileParts, Sequence.compileParts, Factor.compileParts,
    Term.compile, compile_groupAt, joinPredicates]

end Predicates

/-- The operations of a pure backend are functions of their operands: they neither read nor change
a state. -/
structure Backend.IsPure {State Failure Predicate : Type}
    (backend : Backend State Failure Predicate) : Prop where
  conjunction : ∀ operands, ∃ outcome, backend.conjunction operands = Build.ofExcept outcome
  disjunction : ∀ operands, ∃ outcome, backend.disjunction operands = Build.ofExcept outcome
  negation : ∀ operand, ∃ outcome, backend.negation operand = Build.ofExcept outcome
  prefixSearch : ∀ field literal, ∃ outcome,
    backend.prefixSearch field literal = Build.ofExcept outcome
  suffixSearch : ∀ field literal, ∃ outcome,
    backend.suffixSearch field literal = Build.ofExcept outcome
  compare : ∀ comparator field value, ∃ outcome,
    backend.compare comparator field value = Build.ofExcept outcome

namespace Backend.IsPure

variable {State Failure Predicate : Type} {backend : Backend State Failure Predicate}

theorem relate (isPure : backend.IsPure) (comparator : Comparator) (field : String)
    (value : Value) :
    ∃ outcome, backend.relate comparator field value = Build.ofExcept outcome := by
  unfold Backend.relate
  split
  · exact isPure.prefixSearch field _
  · exact isPure.suffixSearch field _
  · exact isPure.compare _ field value

/-- Two runs that both stay in one state. -/
def unmoved (state : State) :
    Correspondence State State (CompileError Failure) (CompileError Failure) where
  states first second := first = state ∧ second = state
  errors _ _ := True

theorem unmoved_steps {state : State} {wrap : Failure → CompileError Failure}
    {step : Build State Failure Predicate}
    (isPure : ∃ outcome, step = Build.ofExcept outcome) :
    (unmoved state).Steps Eq (ExceptT.adapt wrap step) (ExceptT.adapt wrap step) := by
  obtain ⟨outcome, rfl⟩ := isPure
  intro state₁ state₂ states
  cases outcome with
  | ok predicate => exact .ok rfl states
  | error failure => exact .error trivial states

/-- A compilation through a pure backend leaves the state alone. -/
theorem compileText_state (isPure : backend.IsPure) (text : String) (state : State) :
    (Build.outcome (compileText backend text) state).2 = state := by
  have operations : (unmoved state).Operations Eq backend backend := by
    refine ⟨⟨?_, ?_, ?_⟩, ?_, fun _ => trivial⟩
    · intro operands₁ operands₂ same
      obtain rfl : operands₁ = operands₂ := by rwa [List.forall₂_eq_eq_eq] at same
      exact unmoved_steps (isPure.conjunction operands₁)
    · intro operands₁ operands₂ same
      obtain rfl : operands₁ = operands₂ := by rwa [List.forall₂_eq_eq_eq] at same
      exact unmoved_steps (isPure.disjunction operands₁)
    · rintro operand _ rfl
      exact unmoved_steps (isPure.negation operand)
    · intro comparator field value
      exact unmoved_steps (isPure.relate comparator field value)
  have outcomes := operations.compileText text state state ⟨rfl, rfl⟩
  generalize Build.outcome (compileText backend text) state = outcome at outcomes ⊢
  cases outcomes with
  | ok related states => exact states.1
  | error related states => exact states.1
  | failedAlone allowed => exact allowed.elim

/-- A step after one that leaves the state alone starts from the same state. -/
theorem outcome_bind_compileText (isPure : backend.IsPure) {text : String} {state : State}
    {predicate : Predicate}
    (compiled : (Build.outcome (compileText backend text) state).1 = .ok predicate)
    (next : Predicate → Build State (CompileError Failure) Predicate) :
    Build.outcome (compileText backend text >>= next) state =
      Build.outcome (next predicate) state := by
  have outcome : Build.outcome (compileText backend text) state = (.ok predicate, state) :=
    Prod.ext compiled (isPure.compileText_state text state)
  rw [Build.outcome_bind, outcome]

end Backend.IsPure

theorem Predicate.answer_isPure {State : Type} (refused : Option String) (call : String)
    (predicate : Predicate) :
    ∃ outcome, (answer refused call predicate : Build State Refusal Predicate) =
      Build.ofExcept outcome := by
  unfold answer
  split
  · exact ⟨.error ⟨call⟩, rfl⟩
  · exact ⟨.ok predicate, rfl⟩

/-- The backend of terms is pure. -/
theorem Predicate.backend_isPure (name : String) (refused : Option String) :
    (backend name refused).IsPure where
  conjunction _ := answer_isPure refused _ _
  disjunction _ := answer_isPure refused _ _
  negation _ := answer_isPure refused _ _
  prefixSearch _ _ := answer_isPure refused _ _
  suffixSearch _ _ := answer_isPure refused _ _
  compare _ _ _ := answer_isPure refused _ _

/-- Filters compose by text. Two texts that are filters stay what they are inside parentheses,
whatever is written around these: neither escapes them or changes how the other is read, and only
the positions move. So through a pure backend the predicate of the composed text is made of the
predicates of the two texts. -/
theorem filters_compose {first second : String} {left right : Expression}
    (firstParsed : parse first = .ok left) (secondParsed : parse second = .ok right) :
    parse ("(" ++ first ++ ") AND (" ++ second ++ ")") =
        .ok [[[.mk false (left.groupAt 1)]],
          [[.mk false (right.groupAt (Text.utf8Length first.toList + 8))]]] ∧
      parse ("(" ++ first ++ ") OR (" ++ second ++ ")") =
        .ok [[[.mk false (left.groupAt 1),
          .mk false (right.groupAt (Text.utf8Length first.toList + 7))]]] ∧
      parse ("NOT (" ++ first ++ ")") = .ok [[[.mk true (left.groupAt 5)]]] ∧
      parse ("(" ++ first ++ ")") = .ok [[[.mk false (left.groupAt 1)]]] ∧
      ∀ {State Failure Predicate : Type} (backend : Backend State Failure Predicate),
        backend.IsPure → ∀ (state : State) (predicate₁ : Predicate),
          (Build.outcome (compileText backend first) state).1 = .ok predicate₁ →
            Build.outcome (compileText backend ("NOT (" ++ first ++ ")")) state =
                Build.outcome (ExceptT.adapt CompileError.combination
                  (backend.negation predicate₁)) state ∧
              Build.outcome (compileText backend ("(" ++ first ++ ")")) state =
                (.ok predicate₁, state) ∧
              ∀ predicate₂ : Predicate,
                (Build.outcome (compileText backend second) state).1 = .ok predicate₂ →
                  Build.outcome
                      (compileText backend ("(" ++ first ++ ") AND (" ++ second ++ ")")) state =
                    Build.outcome (ExceptT.adapt CompileError.combination
                      (backend.conjunction [predicate₁, predicate₂])) state ∧
                  Build.outcome
                      (compileText backend ("(" ++ first ++ ") OR (" ++ second ++ ")")) state =
                    Build.outcome (ExceptT.adapt CompileError.combination
                      (backend.disjunction [predicate₁, predicate₂])) state := by
  refine ⟨parse_conjunction firstParsed secondParsed, parse_disjunction firstParsed secondParsed,
    parse_negation firstParsed, parse_group firstParsed, ?_⟩
  intro State Failure Predicate backend isPure state predicate₁ compiled₁
  refine ⟨?_, ?_, ?_⟩
  · rw [compileText_negation backend firstParsed, isPure.outcome_bind_compileText compiled₁]
  · rw [compileText_group backend firstParsed]
    exact Prod.ext compiled₁ (isPure.compileText_state first state)
  · intro predicate₂ compiled₂
    constructor
    · rw [compileText_conjunction backend firstParsed secondParsed,
        isPure.outcome_bind_compileText compiled₁, isPure.outcome_bind_compileText compiled₂]
    · rw [compileText_disjunction backend firstParsed secondParsed,
        isPure.outcome_bind_compileText compiled₁, isPure.outcome_bind_compileText compiled₂]

/-- A closing parenthesis in a string does not close the parenthesis around the filter, and a minus
sign is read in the composed text as it is in each of its parts. -/
theorem filters_compose_quoted :
    ∃ left right, parse "a = \")\" OR -b:c.d" = .ok left ∧ parse "NOT e >= -1" = .ok right ∧
      parse "(a = \")\" OR -b:c.d) AND (NOT e >= -1)" =
        .ok [[[.mk false (left.groupAt 1)]], [[.mk false (right.groupAt 25)]]] ∧
      Build.outcome (compileText (Predicate.backend "terms" none)
          "(a = \")\" OR -b:c.d) AND (NOT e >= -1)") () =
        (.ok (.and [
          .or [.compare .equal "a" ⟨"\")\"", .string ")"⟩,
            .not (.compare .has "b" ⟨"c.d", .text "c.d"⟩)],
          .not (.compare .greaterEqual "e" ⟨"-1", .integer32 (-1)⟩)]), ()) := by
  have firstParsed : parse "a = \")\" OR -b:c.d" = .ok [[[
      .mk false (.compare ⟨⟨.text, "a", 0⟩, []⟩ "=" (some ⟨⟨.string, "\")\"", 4⟩, []⟩)),
      .mk true (.compare ⟨⟨.text, "b", 12⟩, []⟩ ":"
        (some ⟨⟨.text, "c", 14⟩, [⟨.text, "d", 16⟩]⟩))]]] := rfl
  have secondParsed : parse "NOT e >= -1" = .ok [[[
      .mk true (.compare ⟨⟨.text, "e", 4⟩, []⟩ ">=" (some ⟨⟨.integer, "-1", 9⟩, []⟩))]]] := rfl
  have firstCompiled : (Build.outcome (compileText (Predicate.backend "terms" none)
      "a = \")\" OR -b:c.d") ()).1 =
        .ok (.or [.compare .equal "a" ⟨"\")\"", .string ")"⟩,
          .not (.compare .has "b" ⟨"c.d", .text "c.d"⟩)]) := by
    unfold compileText
    rw [firstParsed]
    rfl
  have secondCompiled : (Build.outcome (compileText (Predicate.backend "terms" none)
      "NOT e >= -1") ()).1 =
        .ok (.not (.compare .greaterEqual "e" ⟨"-1", .integer32 (-1)⟩)) := by
    unfold compileText
    rw [secondParsed]
    rfl
  obtain ⟨conjunction, -, -, -, predicates⟩ := filters_compose firstParsed secondParsed
  obtain ⟨-, -, composed⟩ :=
    predicates (Predicate.backend "terms" none) (Predicate.backend_isPure _ _) () _ firstCompiled
  exact ⟨_, _, firstParsed, secondParsed, conjunction, (composed _ secondCompiled).1⟩

end FilterQuery
