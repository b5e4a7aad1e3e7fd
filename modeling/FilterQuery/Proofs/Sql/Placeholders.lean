import FilterQuery.Proofs.Sql.Lexing

/-!
# Placeholders of clause texts

The placeholders of a text are its argument lexemes, from left to right; what stands inside a quoted
identifier is none. A comparison has the placeholder of its argument, and connectives put the
placeholders of their operands one behind the other.
-/

namespace FilterQuery.Sql

/-- The name of an argument. -/
def Lexeme.argumentName? : Lexeme → Option String
  | .argument name => some name
  | _ => none

/-- The names of the arguments among lexemes, from left to right. -/
def Lexeme.argumentNames (lexemes : List Lexeme) : List String :=
  lexemes.filterMap Lexeme.argumentName?

/-- The placeholders of a text, from left to right, if the text consists of lexemes. -/
def placeholders? (text : String) : Option (List String) :=
  (Lexeme.lex? text).map Lexeme.argumentNames

/-- Different arguments have different names. -/
theorem Options.argumentName_injective (options : Options) :
    Function.Injective options.argumentName := by
  intro first second same
  have digits : Nat.toDigits 10 (first + 1) = Nat.toDigits 10 (second + 1) := by
    have numbers : toString (first + 1) = toString (second + 1) :=
      (String.append_right_inj options.placeholder).mp same
    rwa [Nat.toString_eq_ofList_toDigits, Nat.toString_eq_ofList_toDigits, String.ofList_inj]
      at numbers
  have read (number : Nat) : Nat.ofDigitChars 10 (Nat.toDigits 10 number) 0 = number :=
    Nat.ofDigitChars_toDigits (by decide) (by decide)
  have successors : first + 1 = second + 1 := by rw [← read (first + 1), digits, read]
  exact Nat.add_right_cancel successors

/-- A text with the given placeholders, wherever it stands in the text of a clause. -/
def Mentions (text : String) (names : List String) : Prop :=
  ∃ lexemes, Lexes text.toList lexemes ∧ Lexeme.argumentNames lexemes = names

namespace Lexeme

theorem argumentNames_append (first second : List Lexeme) :
    argumentNames (first ++ second) = argumentNames first ++ argumentNames second :=
  List.filterMap_append

theorem argumentNames_cons (lexeme : Lexeme) (rest : List Lexeme) :
    argumentNames (lexeme :: rest) = lexeme.argumentName?.toList ++ argumentNames rest := by
  cases lexeme <;> rfl

/-- A column has no placeholders. -/
theorem argumentNames_pathLexemes (parts : List String) :
    argumentNames (pathLexemes parts) = [] := by
  fun_induction pathLexemes parts with
  | case1 => rfl
  | case2 part => rfl
  | case3 part next rest inductionHypothesis => exact inductionHypothesis

/-- A keyword between lexemes is no placeholder. -/
theorem argumentNames_intercalate (keyword : Keyword) (operands : List (List Lexeme)) :
    argumentNames ([.keyword keyword].intercalate operands) =
      (operands.map argumentNames).flatten := by
  induction operands with
  | nil => rfl
  | cons operand rest inductionHypothesis =>
    cases rest with
    | nil => simp
    | cons next rest =>
      rw [List.intercalate_cons_cons, argumentNames_append, argumentNames_append,
        inductionHypothesis, List.map_cons, List.flatten_cons]
      simp [argumentNames, argumentName?]

end Lexeme

namespace Mentions

/-- The placeholders that a whole text mentions are its placeholders. -/
theorem placeholders? {text : String} {names : List String} (mentions : Mentions text names) :
    Sql.placeholders? text = some names := by
  obtain ⟨lexemes, lexes, areNames⟩ := mentions
  rw [Sql.placeholders?, lexes.lex?, Option.map_some, areNames]

section Comparisons

variable {options : Options} (named : isName options.placeholder.toList = true) (field : String)
  (bound : Nat)

include named

theorem relation {sign : String} {lexeme : Lexeme} (signLexes : Lexes sign.toList [lexeme])
    (noArgument : lexeme.argumentName? = none) :
    Mentions (options.column field ++ " " ++ sign ++ " " ++ ("@" ++ options.argumentName bound))
      [options.argumentName bound] := by
  refine ⟨_, Lexes.relation named field bound signLexes, ?_⟩
  rw [Lexeme.argumentNames_append, Lexeme.argumentNames_pathLexemes, Lexeme.argumentNames_cons,
    noArgument]
  rfl

/-- A comparison mentions the argument that it compares with. -/
theorem comparison (comparator : Comparator) :
    Mentions (comparisonText comparator (options.column field) ("@" ++ options.argumentName bound))
      [options.argumentName bound] := by
  cases comparator with
  | equal => exact relation named field bound (Lexes.sign rfl rfl rfl) rfl
  | less => exact relation named field bound (Lexes.sign rfl rfl rfl) rfl
  | lessEqual => exact relation named field bound (Lexes.sign rfl rfl rfl) rfl
  | greaterEqual => exact relation named field bound (Lexes.sign rfl rfl rfl) rfl
  | greater => exact relation named field bound (Lexes.sign rfl rfl rfl) rfl
  | notEqual => exact relation named field bound (Lexes.sign rfl rfl rfl) rfl
  | has =>
    refine ⟨_, Lexes.membership named field bound, ?_⟩
    rw [Lexeme.argumentNames_append, Lexeme.argumentNames_cons .leftParen,
      Lexeme.argumentNames_append, Lexeme.argumentNames_pathLexemes]
    rfl

/-- A comparison with a pattern mentions the pattern. -/
theorem like :
    Mentions (likeText (options.column field) ("@" ++ options.argumentName bound))
      [options.argumentName bound] := by
  rw [likeText_eq]
  exact relation named field bound Lexes.like rfl

end Comparisons

/-- An operand mentions the same with and without parentheses. -/
theorem operandText {clause : Clause} {names : List String} (outer : Strength)
    (mentions : Mentions clause.text names) : Mentions (clause.operandText outer) names := by
  obtain ⟨lexemes, lexes, rfl⟩ := mentions
  unfold Clause.operandText
  split
  · refine ⟨.leftParen :: (lexemes ++ [.rightParen]), ?_, ?_⟩
    · simpa using lexes.parenthesised
    · rw [Lexeme.argumentNames_cons, Lexeme.argumentNames_append]
      exact List.append_nil _
  · exact ⟨lexemes, lexes, rfl⟩

/-- A negation mentions what its operand mentions. -/
theorem negate {clause : Clause} {names : List String} (mentions : Mentions clause.text names) :
    Mentions clause.negate.text names := by
  obtain ⟨lexemes, lexes, areNames⟩ := mentions.operandText .negation
  refine ⟨.keyword .not :: lexemes, ?_, areNames⟩
  simpa [Clause.negate] using Lexes.not.blank lexes

/-- Operands are cut into lexemes one by one. -/
theorem operandTexts (outer : Strength) {clauses : List Clause} {names : List (List String)}
    (mention : List.Forall₂ (fun clause names => Mentions clause.text names) clauses names) :
    ∃ operands,
      List.Forall₂ (fun text lexemes => Lexes text.toList lexemes)
        (clauses.map (Clause.operandText outer)) operands ∧
      operands.map Lexeme.argumentNames = names := by
  have each : List.Forall₂ Mentions (clauses.map (Clause.operandText outer)) names := by
    rw [List.forall₂_map_left_iff]
    exact mention.imp fun _ _ => operandText outer
  obtain ⟨operands, allLex, areNames⟩ := exists_lexemes each
  refine ⟨operands, allLex, ?_⟩
  rwa [← List.forall₂_eq_eq_eq, List.forall₂_map_left_iff]

/-- What is joined mentions what its operands mention, from left to right. -/
theorem join {operator : String} {keyword : Keyword} {strength : Strength} {clauses : List Clause}
    {names : List (List String)} {clause : Clause}
    (operatorLexes : Lexes operator.toList [.keyword keyword])
    (mention : List.Forall₂ (fun clause names => Mentions clause.text names) clauses names)
    (joined : Clause.join operator strength clauses = .ok clause) :
    Mentions clause.text names.flatten := by
  obtain ⟨-, -, isText, -⟩ := Clause.join_eq_ok joined
  obtain ⟨operands, allLex, rfl⟩ := operandTexts strength mention
  rw [isText]
  exact ⟨_, lexes_join operatorLexes allLex, Lexeme.argumentNames_intercalate keyword operands⟩

end Mentions

end FilterQuery.Sql
