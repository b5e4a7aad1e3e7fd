import FilterQuery.Proofs.Token.Matching
import FilterQuery.Proofs.Token.Names
import FilterQuery.Proofs.Token.Run

/-!
# Stray characters

Every character that separates no tokens starts one, but for four that need more behind them: an
exclamation mark that is not half of a comparator, a comma, a quotation mark that opens no string,
and the sign of a number that is none.
-/

namespace FilterQuery

open LexicalClass Pattern

/-- A character that starts no token behind the last one and before the given rest. -/
inductive IsStray (last : Option TokenKind) : Char → List Char → Prop where
  | exclamationMark {rest : List Char} (unequal : rest.head? ≠ some '=') : IsStray last '!' rest
  | comma {rest : List Char} : IsStray last ',' rest
  | quotationMark {rest : List Char} (noString : ¬ stringClass.Starts ('"' :: rest)) :
      IsStray last '"' rest
  | sign {rest : List Char} (isComparator : last = some .comparator)
      (digit : startsWithDigit rest = true)
      (noNumber : ∀ numberClass ∈ numberClasses, ¬ numberClass.Starts ('-' :: rest)) :
      IsStray last '-' rest

namespace IsStray

variable {last : Option TokenKind} {c : Char} {rest : List Char}

/-- A stray character is one of four. -/
theorem mem (isStray : IsStray last c rest) : c ∈ ['!', ',', '"', '-'] := by
  cases isStray <;> decide

theorem utf8Size (isStray : IsStray last c rest) : c.utf8Size = 1 := by
  cases isStray <;> decide

theorem isSeparator (isStray : IsStray last c rest) : isSeparator c = false := by
  cases isStray <;> decide

end IsStray

section Classes

variable {after : Bool} {c : Char} {rest : List Char}

theorem textClass_mem_table : textClass ∈ table := by
  simp [table, textClass]

/-- A text starts with no token if it starts with none of any class. -/
theorem nextToken?_eq_none_iff_table {text : List Char} :
    nextToken? after text = none ↔ startsNegation after text = false ∧
      ∀ lexicalClass ∈ table, lexicalClass.lexeme? text = none := by
  unfold nextToken?
  by_cases minus : startsNegation after text = true
  · simp [minus]
  · simp [minus, List.findSome?_eq_none_iff]

/-- A class has no token at a character that its pattern refuses. Numbers refuse every character
that is neither a minus sign nor a digit. -/
theorem lexeme?_eq_none_of_refuses (notNumeric : c ∉ '-' :: asciiDigits)
    {lexicalClass : LexicalClass} (listed : lexicalClass ∈ table)
    (refuses : lexicalClass.pattern.refusesFirst c = true ∨ lexicalClass.kind ∈ numberKinds)
    (rest : List Char) : lexicalClass.lexeme? (c :: rest) = none := by
  rcases refuses with refuses | isNumber
  · exact LexicalClass.lexeme?_eq_none (split?_eq_none_of_refusesFirst refuses rest)
  · exact lexeme?_eq_none_of_numberClass listed isNumber notNumeric rest

/-- A class that is not delimited has a token wherever its pattern fits. -/
theorem LexicalClass.split?_eq_none {lexicalClass : LexicalClass} {text : List Char}
    (undelimited : lexicalClass.delimited = false) (missing : lexicalClass.lexeme? text = none) :
    lexicalClass.pattern.split? text = none := by
  refine Option.eq_none_iff_forall_ne_some.mpr fun taken found => ?_
  have read := lexeme?_eq_some_iff.mpr ⟨taken.2, found, by simp [undelimited]⟩
  cases missing.symm.trans read

/-- A minus sign that negates nothing stands behind a comparator and before a digit. -/
theorem startsNegation_eq_false_iff :
    startsNegation after ('-' :: rest) = false ↔ after = true ∧ startsWithDigit rest = true := by
  cases rest with
  | nil => simp [startsNegation, startsWithDigit]
  | cons first rest => simp [startsNegation, startsWithDigit]

/-- Of the classes, only those of numbers have tokens that start with a minus sign. -/
theorem lexeme?_minus {lexicalClass : LexicalClass} (listed : lexicalClass ∈ table)
    (noNumber : lexicalClass.kind ∉ numberKinds) (rest : List Char) :
    lexicalClass.lexeme? ('-' :: rest) = none := by
  have refuse : ∀ lexicalClass ∈ table, lexicalClass.kind ∉ numberKinds →
      lexicalClass.pattern.refusesFirst '-' = true := List.all_iff_forall_prop.mp (by decide)
  exact LexicalClass.lexeme?_eq_none
    (split?_eq_none_of_refusesFirst (refuse lexicalClass listed noNumber) rest)

theorem split?_choice_eq_none_iff {first second : Pattern} {text : List Char} :
    (choice first second).split? text = none ↔
      first.split? text = none ∧ second.split? text = none := by
  rw [split?]
  cases first.split? text <;> simp

theorem split?_is_seq_eq_none_iff {wanted : Char} {tail : Pattern} :
    (seq (is wanted) tail).split? (c :: rest) = none ↔ (c = wanted → tail.split? rest = none) := by
  by_cases same : c = wanted
  · rcases found : tail.split? rest with _ | ⟨right, last⟩ <;> simp [split?, is, same, found]
  · simp [split?, is, same]

/-- The comparators, by their first character. -/
theorem comparatorPattern_split?_eq_none_iff :
    comparatorPattern.split? (c :: rest) = none ↔
      c ∉ ['<', '>', '=', ':'] ∧ (c = '!' → rest.head? ≠ some '=') := by
  have equalSign : (seq (is '=') .empty).split? rest = none ↔ rest.head? ≠ some '=' := by
    cases rest with
    | nil => simp [split?, is]
    | cons first rest => rw [split?_is_seq_eq_none_iff]; simp [split?]
  have nothing : Pattern.empty.split? rest ≠ none := Option.some_ne_none _
  have signs : comparatorPattern =
      choice (seq (is '<') (seq (is '=') .empty)) (choice (seq (is '>') (seq (is '=') .empty))
        (choice (seq (is '!') (seq (is '=') .empty)) (choice (seq (is '<') .empty)
          (choice (seq (is '>') .empty) (choice (seq (is '=') .empty) (seq (is ':') .empty)))))) :=
    rfl
  simp only [signs, split?_choice_eq_none_iff, split?_is_seq_eq_none_iff, equalSign, nothing,
    imp_false, List.mem_cons, List.not_mem_nil, or_false, not_or]
  constructor
  · rintro ⟨-, -, exclamation, less, greater, equal, colon⟩
    exact ⟨⟨less, greater, equal, colon⟩, exclamation⟩
  · rintro ⟨⟨less, greater, equal, colon⟩, exclamation⟩
    exact ⟨fun same => absurd same less, fun same => absurd same greater, exclamation, less,
      greater, equal, colon⟩

end Classes

section Reading

variable {last : Option TokenKind} {c : Char} {rest : List Char}

/-- An exclamation mark starts a comparator or nothing, and a comma starts nothing. -/
theorem nextToken?_eq_none_of_mem (listed : c ∈ ['!', ','])
    (unequal : c = '!' → rest.head? ≠ some '=') (after : Bool) :
    nextToken? after (c :: rest) = none := by
  have refuse : ∀ c ∈ ['!', ','], (c ≠ '-' ∧ c ∉ '-' :: asciiDigits ∧ c ∉ ['<', '>', '=', ':']) ∧
      ∀ lexicalClass ∈ table, lexicalClass.kind ≠ .comparator →
        lexicalClass.pattern.refusesFirst c = true ∨ lexicalClass.kind ∈ numberKinds :=
    List.all_iff_forall_prop.mp (by decide)
  obtain ⟨⟨noMinus, notNumeric, noSign⟩, refused⟩ := refuse c listed
  refine nextToken?_eq_none_iff_table.mpr ⟨startsNegation_of_ne noMinus after rest, ?_⟩
  intro lexicalClass inTable
  by_cases comparator : lexicalClass.kind = .comparator
  · rw [eq_comparator_of_kind lexicalClass inTable comparator]
    exact LexicalClass.lexeme?_eq_none
      (comparatorPattern_split?_eq_none_iff.mpr ⟨noSign, unequal⟩)
  · exact lexeme?_eq_none_of_refuses notNumeric inTable (refused lexicalClass inTable comparator)
      rest

/-- A stray character starts no token. -/
theorem IsStray.nextToken? (isStray : IsStray last c rest) :
    nextToken? (afterComparator last) (c :: rest) = none := by
  cases isStray with
  | exclamationMark unequal => exact nextToken?_eq_none_of_mem (by decide) (fun _ => unequal) _
  | comma =>
    refine nextToken?_eq_none_of_mem (by decide) (fun same => ?_) _
    cases same
  | quotationMark noString =>
    refine nextToken?_eq_none_iff_table.mpr ⟨startsNegation_of_ne (by decide) _ rest, ?_⟩
    intro lexicalClass listed
    by_cases isString : lexicalClass.kind = .string
    · rw [eq_string_of_kind lexicalClass listed isString]
      exact lexeme?_eq_none_of_not_starts noString
    · exact lexeme?_quotationMark rest lexicalClass listed isString
  | sign isComparator digit noNumber =>
    refine nextToken?_eq_none_iff_table.mpr ⟨startsNegation_eq_false_iff.mpr
      ⟨afterComparator_eq_true_iff.mpr isComparator, digit⟩, fun lexicalClass listed => ?_⟩
    by_cases isNumber : lexicalClass.kind ∈ numberKinds
    · obtain ⟨numberClass, numberListed, sameKind⟩ := List.mem_map.mp isNumber
      obtain rfl := eq_of_kind (numberClasses_subset numberListed) listed sameKind
      exact lexeme?_eq_none_of_not_starts (noNumber _ numberListed)
    · exact lexeme?_minus listed isNumber rest

/-- A character other than a minus sign that starts a token of no class is a separator or one of
three. -/
theorem mem_of_lexeme?_eq_none (noMinus : c ≠ '-') (word : isSeparator c = false)
    (missing : ∀ lexicalClass ∈ table, lexicalClass.lexeme? (c :: rest) = none) :
    c ∈ ['!', ',', '"'] ∧ (c = '!' → rest.head? ≠ some '=') := by
  have missingPattern (lexicalClass : LexicalClass) (listed : lexicalClass ∈ table)
      (undelimited : lexicalClass.delimited = false) :
      lexicalClass.pattern.split? (c :: rest) = none :=
    LexicalClass.split?_eq_none undelimited (missing lexicalClass listed)
  have notSingle (kind : TokenKind) (wanted : Char) (listed : ⟨kind, is wanted, false⟩ ∈ table) :
      c ≠ wanted := by
    rintro rfl
    simpa [is, split?] using missingPattern _ listed rfl
  -- Every character that is not reserved starts a text.
  have reserved : isReserved c = true := by
    refine Bool.eq_true_of_not_eq_false fun unreserved => ?_
    have noText := missingPattern textClass textClass_mem_table rfl
    simp [textClass, textPattern, split?, unreserved, noMinus] at noText
  obtain ⟨noSign, unequal⟩ := comparatorPattern_split?_eq_none_iff.mp
    (missingPattern ⟨.comparator, comparatorPattern, false⟩ (by simp [table]) rfl)
  have noOpening := notSingle .leftParen '(' (by simp [table])
  have noClosing := notSingle .rightParen ')' (by simp [table])
  have noDot := notSingle .dot '.' (by simp [table])
  simp only [List.mem_cons, List.not_mem_nil, or_false, not_or] at noSign
  exact ⟨by simpa [isReserved, word, noOpening, noClosing, noDot, noSign] using reserved, unequal⟩

/-- A character that separates no tokens and starts none is stray. -/
theorem isStray_of_nextToken? (word : isSeparator c = false)
    (missing : nextToken? (afterComparator last) (c :: rest) = none) : IsStray last c rest := by
  obtain ⟨noNegation, classes⟩ := nextToken?_eq_none_iff_table.mp missing
  by_cases minus : c = '-'
  · subst minus
    obtain ⟨isComparator, digit⟩ := startsNegation_eq_false_iff.mp noNegation
    refine .sign (afterComparator_eq_true_iff.mp isComparator) digit ?_
    intro numberClass listed starts
    obtain ⟨lexeme, read⟩ := number_lexeme?_of_starts listed starts
    cases (classes numberClass (numberClasses_subset listed)).symm.trans read
  · obtain ⟨left, unequal⟩ := mem_of_lexeme?_eq_none minus word classes
    simp only [List.mem_cons, List.not_mem_nil, or_false] at left
    rcases left with rfl | rfl | rfl
    · exact .exclamationMark (unequal rfl)
    · exact .comma
    · refine .quotationMark fun starts => ?_
      obtain ⟨lexeme, read⟩ := string_lexeme?_of_starts starts
      cases (classes stringClass (by simp [table, stringClass])).symm.trans read

end Reading

end FilterQuery
