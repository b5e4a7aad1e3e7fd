import FilterQuery.Proofs.Sql.Recipe

/-!
# Lexemes of clause texts

`Lexes text lexemes` says that a text is cut into the given lexemes wherever it stands before a
blank, a dot, a parenthesis or the end. The pieces that clause texts are made of lex so, and lexing
goes through blanks and parentheses piece by piece. In particular nothing inside the quotation marks
of a column can end them.
-/

namespace FilterQuery.Sql

open Lexeme

/-- A text before which every lexeme ends. -/
def EndsLexeme (rest : List Char) : Prop := ∀ c ∈ rest.head?, c ∈ [' ', '.', '(', ')']

theorem EndsLexeme.nil : EndsLexeme [] := by simp [EndsLexeme]

theorem EndsLexeme.cons {c : Char} (rest : List Char) (ends : c ∈ [' ', '.', '(', ')']) :
    EndsLexeme (c :: rest) := by
  simpa [EndsLexeme] using ends

/-- A character that ends lexemes ends the current one, if that may end at all. -/
theorem Lexeme.Mode.read?_of_ends {mode : Mode} {found : List Lexeme} {c : Char}
    (finished : mode.finish? = some found) (ends : c ∈ [' ', '.', '(', ')']) :
    mode.read? c = (start? c).map fun (started, next) => (found ++ started, next) := by
  have outside : isNameCharacter c = false ∧ isSignCharacter c = false ∧ c ≠ '"' := by
    simp only [List.mem_cons, List.not_mem_nil, or_false] at ends
    rcases ends with rfl | rfl | rfl | rfl <;> decide
  obtain ⟨noName, noSign, noQuote⟩ := outside
  have flushes : mode.flush? c =
      (start? c).map fun (started, next) => (found ++ started, next) := by
    rw [Mode.flush?, finished]
    cases start? c <;> rfl
  cases mode with
  | between =>
    cases finished
    cases begun : start? c <;> simp [Mode.read?, begun]
  | quoted body => cases finished
  | closing body => simpa [Mode.read?, noQuote] using flushes
  | argument name => simpa [Mode.read?, noName] using flushes
  | word letters => simpa [Mode.read?, noName] using flushes
  | sign characters => simpa [Mode.read?, noSign] using flushes

/-- A lexeme that may end is complete before a text that ends lexemes. -/
theorem Lexeme.lexFrom?_of_ends {mode : Mode} {found : List Lexeme} {rest : List Char}
    (finished : mode.finish? = some found) (ends : EndsLexeme rest) :
    lexFrom? mode rest = (lexFrom? .between rest).map (found ++ ·) := by
  cases rest with
  | nil =>
    rw [lexFrom?, finished]
    simp [lexFrom?, Mode.finish?]
  | cons c rest =>
    have stops : c ∈ [' ', '.', '(', ')'] := ends c rfl
    simp only [lexFrom?, Mode.read?_of_ends finished stops]
    rw [show Mode.between.read? c = start? c from rfl]
    cases start? c with
    | none => rfl
    | some begun =>
      simp only [Option.map_some, Option.map_map]
      congr 1
      funext lexemes
      simp

/-- A text that is cut into the given lexemes wherever lexemes end behind it. -/
def Lexes (text : List Char) (lexemes : List Lexeme) : Prop :=
  ∀ rest, EndsLexeme rest →
    lexFrom? .between (text ++ rest) = (lexFrom? .between rest).map (lexemes ++ ·)

namespace Lexes

/-- A text lexes if reading it leads to a mode that may end. -/
theorem of_mode {text : List Char} {found : List Lexeme} (mode : Mode)
    (reads : ∀ rest, lexFrom? .between (text ++ rest) = lexFrom? mode rest)
    (finished : mode.finish? = some found) : Lexes text found := by
  intro rest ends
  rw [reads, lexFrom?_of_ends finished ends]

/-- A whole text that lexes has these lexemes. -/
theorem lex? {text : String} {lexemes : List Lexeme} (lexes : Lexes text.toList lexemes) :
    Lexeme.lex? text = some lexemes := by
  have whole := lexes [] .nil
  simpa [Lexeme.lex?, lexFrom?, Mode.finish?] using whole

/-- Two texts lex one after the other if the second starts with a character that ends lexemes. -/
theorem append {c : Char} {first second : List Char} {lexemes others : List Lexeme}
    (left : Lexes first lexemes) (ends : c ∈ [' ', '.', '(', ')'])
    (right : Lexes (c :: second) others) : Lexes (first ++ c :: second) (lexemes ++ others) := by
  intro rest behind
  have stops : EndsLexeme (c :: second ++ rest) := .cons _ ends
  rw [List.append_assoc, left _ stops, right rest behind, Option.map_map]
  congr 1
  funext more
  simp

/-- A character that is complete by itself goes before a text. -/
theorem cons {c : Char} {text : List Char} {lexemes : List Lexeme} (started : List Lexeme)
    (starts : start? c = some (started, .between)) (lexes : Lexes text lexemes) :
    Lexes (c :: text) (started ++ lexemes) := by
  intro rest behind
  have begun : lexFrom? .between (c :: (text ++ rest)) =
      (lexFrom? .between (text ++ rest)).map (started ++ ·) := by
    simp [lexFrom?, Mode.read?, starts]
  rw [List.cons_append, begun, lexes rest behind, Option.map_map]
  congr 1
  funext more
  simp

theorem nil : Lexes [] [] := by
  intro rest _
  simp

/-- A blank separates two texts. -/
theorem blank {first second : List Char} {lexemes others : List Lexeme}
    (left : Lexes first lexemes) (right : Lexes second others) :
    Lexes (first ++ ' ' :: second) (lexemes ++ others) :=
  left.append (by decide) (right.cons [] rfl)

/-- Parentheses are lexemes of their own. -/
theorem parenthesised {text : List Char} {lexemes : List Lexeme} (inner : Lexes text lexemes) :
    Lexes ('(' :: (text ++ [')'])) (.leftParen :: (lexemes ++ [.rightParen])) := by
  have closing : Lexes [')'] [.rightParen] := nil.cons [.rightParen] rfl
  exact (inner.append (by decide) closing).cons [.leftParen] rfl

/-- The body of a quoted identifier is read back without its doubled marks. -/
theorem lexFrom?_quoted (read body rest : List Char) :
    lexFrom? (.quoted read) ((body.flatMap fun c => if c = '"' then ['"', '"'] else [c]) ++
      '"' :: rest) = lexFrom? (.closing (read ++ body)) rest := by
  induction body generalizing read with
  | nil => simp [lexFrom?, Mode.read?]
  | cons c body inductionHypothesis =>
    by_cases mark : c = '"'
    · subst mark
      simpa [lexFrom?, Mode.read?] using inductionHypothesis (read ++ ['"'])
    · simpa [lexFrom?, Mode.read?, mark] using inductionHypothesis (read ++ [c])

/-- A quoted part of a column is one identifier. -/
theorem quotePart (part : String) :
    Lexes (Sql.quotePart part).toList
      [.identifier (String.ofList (part.toList.filter (· != '\x00')))] := by
  apply of_mode (.closing (part.toList.filter (· != '\x00')))
  · intro rest
    have opened : ∀ text, lexFrom? .between ('"' :: text) = lexFrom? (.quoted []) text := by
      intro text
      simp [lexFrom?, Mode.read?, start?, isGap]
    simp only [Sql.quotePart, String.toList_ofList, List.cons_append, List.append_assoc,
      List.nil_append, opened]
    exact lexFrom?_quoted [] _ rest
  · rfl

/-- The characters of a name all belong to the argument. -/
theorem lexFrom?_argument {name : List Char} (read rest : List Char)
    (characters : ∀ c ∈ name, isNameCharacter c = true) :
    lexFrom? (.argument read) (name ++ rest) = lexFrom? (.argument (read ++ name)) rest := by
  induction name generalizing read with
  | nil => simp
  | cons c name inductionHypothesis =>
    have continued := inductionHypothesis (read ++ [c]) fun other member =>
      characters other (List.mem_cons_of_mem c member)
    simpa [lexFrom?, Mode.read?, characters c List.mem_cons_self] using continued

/-- An argument is one lexeme if its name is a name. -/
theorem argument {name : String} (named : isName name.toList = true) :
    Lexes ('@' :: name.toList) [.argument name] := by
  have characters : ∀ c ∈ name.toList, isNameCharacter c = true := by
    cases letters : name.toList with
    | nil => simp
    | cons c rest =>
      rw [letters, isName, Bool.and_eq_true, List.all_eq_true] at named
      simpa [isNameCharacter, named.1] using named.2
  apply of_mode (.argument name.toList)
  · intro rest
    have begun : ∀ text, lexFrom? .between ('@' :: text) = lexFrom? (.argument []) text := by
      intro text
      simp [lexFrom?, Mode.read?, start?, isGap]
    rw [List.cons_append, begun, lexFrom?_argument [] rest characters, List.nil_append]
  · simp [Mode.finish?, named]

/-- The characters of a word all belong to it. -/
theorem lexFrom?_word {letters : List Char} (read rest : List Char)
    (characters : letters.all isNameCharacter = true) :
    lexFrom? (.word read) (letters ++ rest) = lexFrom? (.word (read ++ letters)) rest := by
  induction letters generalizing read with
  | nil => simp
  | cons c letters inductionHypothesis =>
    rw [List.all_cons, Bool.and_eq_true] at characters
    simpa [lexFrom?, Mode.read?, characters.1] using
      inductionHypothesis (read ++ [c]) characters.2

/-- The characters of a sign all belong to it. -/
theorem lexFrom?_sign {signs : List Char} (read rest : List Char)
    (characters : signs.all isSignCharacter = true) :
    lexFrom? (.sign read) (signs ++ rest) = lexFrom? (.sign (read ++ signs)) rest := by
  induction signs generalizing read with
  | nil => simp
  | cons c signs inductionHypothesis =>
    rw [List.all_cons, Bool.and_eq_true] at characters
    simpa [lexFrom?, Mode.read?, characters.1] using
      inductionHypothesis (read ++ [c]) characters.2

/-- A keyword is one lexeme. -/
theorem keyword {c : Char} {letters : List Char} {found : Keyword}
    (starts : start? c = some ([], .word [c])) (characters : letters.all isNameCharacter = true)
    (spells : Keyword.ofWord? (c :: letters) = some found) :
    Lexes (c :: letters) [.keyword found] := by
  apply of_mode (.word (c :: letters))
  · intro rest
    simpa [lexFrom?, Mode.read?, starts] using lexFrom?_word [c] rest characters
  · simp [Mode.finish?, spells]

theorem and : Lexes "AND".toList [.keyword .and] := keyword rfl rfl rfl

theorem or : Lexes "OR".toList [.keyword .or] := keyword rfl rfl rfl

theorem not : Lexes "NOT".toList [.keyword .not] := keyword rfl rfl rfl

theorem like : Lexes "LIKE".toList [.keyword .like] := keyword rfl rfl rfl

theorem any : Lexes "ANY".toList [.keyword .any] := keyword rfl rfl rfl

/-- A relation sign is one lexeme. -/
theorem sign {c : Char} {signs : List Char} {found : Relation}
    (starts : start? c = some ([], .sign [c])) (characters : signs.all isSignCharacter = true)
    (spells : Relation.ofSign? (c :: signs) = some found) :
    Lexes (c :: signs) [.relation found] := by
  apply of_mode (.sign (c :: signs))
  · intro rest
    simpa [lexFrom?, Mode.read?, starts] using lexFrom?_sign [c] rest characters
  · simp [Mode.finish?, spells]

end Lexes

/-- The lexemes of a column with its qualifiers. -/
def pathLexemes : List String → List Lexeme
  | [] => []
  | [part] => [.identifier part]
  | part :: next :: rest => .identifier part :: .dot :: pathLexemes (next :: rest)

namespace Lexes

/-- Quoted parts with dots between them are a path. -/
theorem path (parts : List String) :
    Lexes (".".intercalate (parts.map Sql.quotePart)).toList
      (pathLexemes (parts.map fun part => String.ofList (part.toList.filter (· != '\x00')))) := by
  induction parts with
  | nil => exact nil
  | cons part rest inductionHypothesis =>
    cases rest with
    | nil =>
      rw [List.map_singleton, String.intercalate_singleton]
      exact quotePart part
    | cons next rest =>
      have separated : (".".intercalate ((part :: next :: rest).map Sql.quotePart)).toList =
          (Sql.quotePart part).toList ++
            '.' :: (".".intercalate ((next :: rest).map Sql.quotePart)).toList := by
        simp [String.intercalate_cons_cons]
      rw [separated]
      exact (quotePart part).append (by decide) (inductionHypothesis.cons [.dot] rfl)

/-- The column of a field is the path of its parts. -/
theorem column (options : Options) (field : String) :
    Lexes (options.column field).toList (pathLexemes (options.path field)) :=
  path _

end Lexes

/-- A name with digits behind it is a name. -/
theorem isName_argumentName {options : Options} (named : isName options.placeholder.toList = true)
    (bound : Nat) : isName (options.argumentName bound).toList = true := by
  have digits : ∀ c ∈ (toString (bound + 1)).toList, isNameCharacter c = true := by
    intro c member
    rw [Nat.toString_eq_ofList_toDigits, String.toList_ofList] at member
    have digit : c.isDigit = true := Nat.isDigit_of_mem_toDigits (by decide) (by decide) member
    simp [isNameCharacter, digit]
  rw [Options.argumentName, String.toList_append]
  cases letters : options.placeholder.toList with
  | nil => simp [letters, isName] at named
  | cons c rest =>
    simp only [letters, isName, Bool.and_eq_true] at named
    simp only [List.cons_append, isName, List.all_append, Bool.and_eq_true]
    exact ⟨named.1, named.2, List.all_eq_true.mpr digits⟩

section Comparisons

variable {options : Options} (named : isName options.placeholder.toList = true) (field : String)
  (bound : Nat)

include named

/-- A column with a sign and an argument behind it. -/
theorem Lexes.relation {sign : String} {lexeme : Lexeme}
    (signLexes : Lexes sign.toList [lexeme]) :
    Lexes (options.column field ++ " " ++ sign ++ " " ++
        ("@" ++ options.argumentName bound)).toList
      (pathLexemes (options.path field) ++ [lexeme, .argument (options.argumentName bound)]) := by
  have pieces := (Lexes.column options field).blank
    (signLexes.blank (Lexes.argument (isName_argumentName named bound)))
  simpa using pieces

/-- An argument before the elements of a column. -/
theorem Lexes.membership :
    Lexes (comparisonText .has (options.column field) ("@" ++ options.argumentName bound)).toList
      ([.argument (options.argumentName bound), .relation .equal, .keyword .any] ++
        .leftParen :: (pathLexemes (options.path field) ++ [.rightParen])) := by
  have equal : Lexes "=".toList [.relation .equal] := Lexes.sign rfl rfl rfl
  have pieces := (Lexes.argument (isName_argumentName named bound)).blank
    (equal.blank (Lexes.any.append (by decide) (Lexes.column options field).parenthesised))
  simpa [comparisonText] using pieces

end Comparisons

/-- A comparison with a pattern has the form of a relation. -/
theorem likeText_eq (column name : String) :
    likeText column name = column ++ " " ++ "LIKE" ++ " " ++ name := by
  have word : " LIKE " = " " ++ ("LIKE" ++ " ") := by decide
  simp only [likeText, word, String.append_assoc]

/-- Texts that are each cut into lexemes of some kind are so one by one. -/
theorem exists_lexemes {Kind : Type} {isKind : List Lexeme → Kind → Prop} {texts : List String}
    {kinds : List Kind}
    (each : List.Forall₂ (fun text kind => ∃ lexemes, Lexes text.toList lexemes ∧
      isKind lexemes kind) texts kinds) :
    ∃ operands, List.Forall₂ (fun text lexemes => Lexes text.toList lexemes) texts operands ∧
      List.Forall₂ isKind operands kinds := by
  induction each with
  | nil => exact ⟨[], .nil, .nil⟩
  | cons head _ inductionHypothesis =>
    obtain ⟨lexemes, lexes, areKind⟩ := head
    obtain ⟨operands, allLex, areAllKinds⟩ := inductionHypothesis
    exact ⟨lexemes :: operands, .cons lexes allLex, .cons areKind areAllKinds⟩

/-- Texts with an operator between them are cut into their lexemes with the operator's between
them. -/
theorem lexes_join {operator : String} {keyword : Keyword}
    (operatorLexes : Lexes operator.toList [.keyword keyword]) {texts : List String}
    {operands : List (List Lexeme)}
    (lexes : List.Forall₂ (fun text lexemes => Lexes text.toList lexemes) texts operands) :
    Lexes ((" " ++ operator ++ " ").intercalate texts).toList
      ([.keyword keyword].intercalate operands) := by
  induction lexes with
  | nil => exact Lexes.nil
  | @cons text lexemes texts operands head tail inductionHypothesis =>
    cases tail with
    | nil =>
      rw [String.intercalate_singleton, List.intercalate_singleton]
      exact head
    | cons next rest =>
      rw [String.intercalate_cons_cons, List.intercalate_cons_cons]
      have pieces := head.blank (operatorLexes.blank inductionHypothesis)
      simpa using pieces

/-- What is joined has operands, is their texts with the operator between them, is as strong as the
operator and has all their arguments. -/
theorem Clause.join_eq_ok {operator : String} {strength : Strength} {operands : List Clause}
    {clause : Clause} (joined : Clause.join operator strength operands = .ok clause) :
    operands ≠ [] ∧ clause.strength = strength ∧
      clause.text =
        (" " ++ operator ++ " ").intercalate (operands.map (Clause.operandText strength)) ∧
      clause.arguments = Clause.mergeArguments operands := by
  unfold Clause.join at joined
  split at joined
  · cases joined
  · rename_i nonempty
    cases joined
    exact ⟨by simpa using nonempty, rfl, rfl, rfl⟩

end FilterQuery.Sql
