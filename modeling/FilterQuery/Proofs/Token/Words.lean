import FilterQuery.Proofs.Token.Numbers

/-!
# Words that stand alone

A word is a text that is one token as a whole. Every token other than a text is a word, whatever
stood behind it where it was read. A word is the same token before a blank, a parenthesis or a dot,
unless the dot starts a fraction: behind a whole number that needs a number, and behind a date that
stops at its seconds a digit.
-/

namespace FilterQuery

open Pattern LexicalClass

section Dates

/-- The parts of a date without a time of day. -/
def dateParts : List Pattern := [digits 4, is '-', digits 2, is '-', digits 2]

/-- The parts of a time of day up to the minutes. -/
def clockParts : List Pattern := [oneOf "Tt", digits 2, is ':', digits 2]

/-- The parts of the seconds of a time of day. -/
def secondParts : List Pattern := [is ':', digits 2]

/-- An offset from universal time, or nothing. -/
def offsetPattern : Pattern :=
  optionally <| choice (oneOf "Zz") (all [oneOf "+-", digits 2, is ':', digits 2])

/-- A date may have a time of day, which may have seconds and an offset. The seconds may have a
fraction. -/
theorem datetimePattern_eq : datetimePattern = all (dateParts ++ [optionally (all (clockParts ++
    [optionally (all (secondParts ++ [fractionPattern])), offsetPattern]))]) := rfl

/-- A date with a time of day up to the seconds. -/
def secondsPattern : Pattern := all (dateParts ++ (clockParts ++ secondParts))

/-- Behind its seconds, a date may have a fraction of a second and an offset. -/
theorem datetimePattern_of_seconds {text head rest tail last : List Char}
    (found : secondsPattern.split? text = some (head, rest))
    (tailFound : (seq fractionPattern offsetPattern).split? rest = some (tail, last)) :
    datetimePattern.split? text = some (head ++ tail, last) := by
  simp only [secondsPattern, split?_all_append, split?_seq_eq_some_iff] at found
  obtain ⟨date, timed, _, dateFound,
    ⟨clock, minuted, seconds, clockFound, secondsFound, rfl⟩, rfl⟩ := found
  obtain ⟨fraction, behind, offset, fractionFound, offsetFound, rfl⟩ :=
    split?_seq_eq_some_iff.mp tailFound
  -- From the inside out: what the seconds, the time of day and the whole date take.
  have secondsWhole : (all (secondParts ++ [fractionPattern])).split? minuted =
      some (seconds ++ fraction, behind) := by
    rw [split?_all_append, split?_seq_eq_some_iff]
    exact ⟨seconds, rest, fraction, secondsFound,
      (split?_all_singleton _ _).trans fractionFound, rfl⟩
  have clockTail : (all [optionally (all (secondParts ++ [fractionPattern])),
      offsetPattern]).split? minuted = some (seconds ++ fraction ++ offset, last) :=
    split?_seq_eq_some_iff.mpr ⟨_, behind, offset, split?_optionally_of_some secondsWhole,
      (split?_all_singleton _ _).trans offsetFound, rfl⟩
  have clockWhole : (all (clockParts ++ [optionally (all (secondParts ++ [fractionPattern])),
      offsetPattern])).split? timed = some (clock ++ (seconds ++ fraction ++ offset), last) := by
    rw [split?_all_append, split?_seq_eq_some_iff]
    exact ⟨clock, minuted, _, clockFound, clockTail, rfl⟩
  rw [datetimePattern_eq, split?_all_append, split?_seq_eq_some_iff]
  refine ⟨date, timed, clock ++ (seconds ++ fraction ++ offset), dateFound, ?_, by simp⟩
  rw [split?_all_singleton]
  exact split?_optionally_of_some clockWhole

/-- A word that is a date with a time of day and stops at its seconds. -/
def IsSeconds (word : List Char) : Prop := secondsPattern.split? word = some (word, [])

/-- A token is a date exactly if the class of dates has it: no class before that one starts with a
digit. -/
theorem nextToken?_datetime_iff {after : Bool} {text lexeme : List Char} :
    nextToken? after text = some (.datetime, lexeme) ↔
      datetimeClass.lexeme? text = some lexeme := by
  constructor
  · intro found
    exact (lexeme?_of_nextToken? found (by simp [table, datetimeClass]) rfl).2
  · intro read
    obtain ⟨rest, taken, -⟩ := lexeme?_eq_some_iff.mp read
    obtain ⟨year, behind, numbered⟩ := number_of_datetime taken
    obtain ⟨rfl, nonempty, areDigits, -⟩ := number_split?_eq_some_iff.mp numbered
    obtain ⟨c, tail, rfl⟩ := List.exists_cons_of_ne_nil nonempty
    have isDigit := areDigits c (by simp)
    have noMinus : c ≠ '-' := by
      rintro rfl
      cases isDigit
    rw [List.cons_append] at read ⊢
    rw [nextToken?_numeric (List.mem_cons_of_mem _ (mem_asciiDigits isDigit))
      (startsNegation_of_ne noMinus _ _), numericTable_eq, List.findSome?_cons, read]
    rfl

namespace IsSeconds

variable {word : List Char}

/-- A date that stops at its seconds is a token where it stands alone. -/
theorem nextToken?_eq (isSeconds : IsSeconds word) (after : Bool) :
    nextToken? after word = some (.datetime, word) := by
  have nothing : (seq fractionPattern offsetPattern).split? [] = some ([], []) := rfl
  have whole := datetimePattern_of_seconds isSeconds nothing
  rw [List.append_nil] at whole
  exact nextToken?_datetime_iff.mpr (lexeme?_eq_some_iff.mpr ⟨[], whole, fun _ => rfl⟩)

/-- Before a dot, a date that stops at its seconds is a token exactly if no digit follows, for
digits would be the fraction of a second. -/
theorem nextToken?_dot_iff (isSeconds : IsSeconds word) (after : Bool) (rest : List Char) :
    nextToken? after (word ++ '.' :: rest) = some (.datetime, word) ↔
      startsWithDigit rest = false := by
  have seconds : secondsPattern.split? (word ++ '.' :: rest) = some (word, '.' :: rest) :=
    split?_extend_of_isRigid (by decide) isSeconds ('.' :: rest)
  rw [nextToken?_datetime_iff, lexeme?_eq_some_iff]
  cases numbered : number.split? rest with
  | none =>
    have noOffset : offsetPattern.split? ('.' :: rest) = some ([], '.' :: rest) := rfl
    have tail : (seq fractionPattern offsetPattern).split? ('.' :: rest) =
        some ([], '.' :: rest) :=
      split?_seq_eq_some_iff.mpr
        ⟨[], '.' :: rest, [], fractionPattern_dot_of_none numbered, noOffset, rfl⟩
    have whole := datetimePattern_of_seconds seconds tail
    rw [List.append_nil] at whole
    exact ⟨fun _ => number_split?_eq_none_iff.mp numbered, fun _ => ⟨_, whole, fun _ => rfl⟩⟩
  | some taken =>
    obtain ⟨digits, behind⟩ := taken
    obtain ⟨⟨offset, last⟩, offsetFound⟩ :=
      exists_split?_of_isTotal (show offsetPattern.isTotal = true from rfl) behind
    have tail : (seq fractionPattern offsetPattern).split? ('.' :: rest) =
        some ('.' :: digits ++ offset, last) :=
      split?_seq_eq_some_iff.mpr
        ⟨'.' :: digits, behind, offset, fractionPattern_dot_of_number numbered, offsetFound, rfl⟩
    have whole := datetimePattern_of_seconds seconds tail
    constructor
    · rintro ⟨other, split, -⟩
      obtain ⟨longer, -⟩ := Prod.mk.inj (Option.some.inj (whole.symm.trans split))
      simp at longer
    · intro noDigit
      cases (number_split?_eq_none_iff.mpr noDigit).symm.trans numbered

end IsSeconds

end Dates

section Dots

variable {word : List Char}

/-- A dot changes what a fraction takes only where the text has ended before the fraction. -/
theorem fractionPattern_stableBefore {behind : List Char} (nonempty : behind ≠ [])
    (more : List Char) : fractionPattern.StableBefore ('.' :: more) behind := by
  refine .optionally (.seq (.char nonempty) fun _ middle _ => ?_)
  exact .of_rejects (by decide) more middle

/-- Behind the digits of a word that is no whole number something follows. -/
theorem ne_nil_of_not_isInteger (notInteger : ¬ IsInteger word)
    {sign unsigned digits behind : List Char}
    (signFound : (optionally (is '-')).split? word = some (sign, unsigned))
    (digitsFound : number.split? unsigned = some (digits, behind)) : behind ≠ [] := by
  rintro rfl
  have whole : integerPattern.split? word = some (sign ++ digits, []) :=
    split?_seq_eq_some_iff.mpr ⟨sign, unsigned, digits, signFound, digitsFound, rfl⟩
  have same := split?_append whole
  rw [List.append_nil] at same
  exact notInteger (same ▸ whole)

theorem durationPattern_stableBefore (notInteger : ¬ IsInteger word) (more : List Char) :
    durationPattern.StableBefore ('.' :: more) word := by
  refine .seq (.of_rejects (by decide) more word) fun sign unsigned signFound => ?_
  refine .seq (.of_rejects (by decide) more unsigned) fun digits behind digitsFound => ?_
  have nonempty := ne_nil_of_not_isInteger notInteger signFound digitsFound
  refine .seq (fractionPattern_stableBefore nonempty more) fun _ last _ => ?_
  exact .of_rejects (by decide) more last

theorem floatPattern_stableBefore (notInteger : ¬ IsInteger word) (more : List Char) :
    floatPattern.StableBefore ('.' :: more) word := by
  refine .seq (.of_rejects (by decide) more word) fun sign unsigned signFound => ?_
  refine .choice ?_ (.of_rejects (by decide) more unsigned)
  refine .seq (.of_rejects (by decide) more unsigned) fun digits behind digitsFound => ?_
  have nonempty := ne_nil_of_not_isInteger notInteger signFound digitsFound
  refine .seq (.char nonempty) fun _ fraction _ => ?_
  exact .of_rejects (by decide) more fraction

theorem datetimePattern_stableBefore (notSeconds : ¬ IsSeconds word) (more : List Char) :
    datetimePattern.StableBefore ('.' :: more) word := by
  rw [datetimePattern_eq]
  refine .all_append (.seq (.of_rejects (by decide) more word) fun date timed dateFound => ?_)
  refine .seq (.optionally ?_) fun _ _ _ => .empty
  refine .all_append (.seq (.of_rejects (by decide) more timed) fun clock minuted clockFound => ?_)
  refine .seq (.optionally ?_) fun _ last _ => .of_rejects (by decide) more last
  refine .all_append (.seq (.of_rejects (by decide) more minuted) fun seconds behind found => ?_)
  have nonempty : behind ≠ [] := by
    rintro rfl
    have whole : secondsPattern.split? word = some (date ++ (clock ++ seconds), []) := by
      simp only [secondsPattern, split?_all_append, split?_seq_eq_some_iff]
      exact ⟨date, timed, _, dateFound, ⟨clock, minuted, seconds, clockFound, found, rfl⟩, rfl⟩
    have same := split?_append whole
    rw [List.append_nil] at same
    exact notSeconds (same ▸ whole)
  exact .seq (fractionPattern_stableBefore nonempty more) fun _ _ _ => .empty

/-- A class whose pattern is stable before a delimiter has the same token there. -/
theorem lexeme?_of_stableBefore {lexicalClass : LexicalClass} {c : Char} {more text : List Char}
    (delimiter : isDelimiter c = true)
    (stable : lexicalClass.pattern.StableBefore (c :: more) text) :
    lexicalClass.lexeme? (text ++ c :: more) = lexicalClass.lexeme? text := by
  unfold lexeme?
  rw [show lexicalClass.pattern.split? (text ++ c :: more) = _ from stable]
  rcases lexicalClass.pattern.split? text with _ | ⟨lexeme, last⟩
  · rfl
  · simp only [Option.map_some, extendRest, endsWord_append delimiter]

/-- Where some class has a token at the head of a text that is neither a whole number nor a date
that stops at its seconds, all classes have the same tokens there when a dot follows the text. -/
theorem lexeme?_dot {first : Char} {rest lexeme : List Char} {chosen : LexicalClass}
    (listed : chosen ∈ LexicalClass.table) (read : chosen.lexeme? (first :: rest) = some lexeme)
    (notInteger : ¬ IsInteger (first :: rest)) (notSeconds : ¬ IsSeconds (first :: rest))
    (more : List Char) :
    ∀ lexicalClass ∈ LexicalClass.table,
      lexicalClass.lexeme? (first :: rest ++ '.' :: more) =
        lexicalClass.lexeme? (first :: rest) := by
  have classes : ∀ lexicalClass ∈ LexicalClass.table, lexicalClass.kind = .string ∨
      lexicalClass.kind = .datetime ∨ lexicalClass.kind = .duration ∨
      lexicalClass.kind = .float ∨ lexicalClass.endsAt '.' = true := by decide
  intro lexicalClass member
  rcases classes lexicalClass member with string | datetime | duration | float | ends
  · obtain rfl := eq_string_of_kind lexicalClass member string
    exact string_lexeme?_append listed read ('.' :: more)
  · obtain rfl : lexicalClass = datetimeClass :=
      eq_of_kind member (by simp [table, datetimeClass]) datetime
    exact lexeme?_of_stableBefore rfl (datetimePattern_stableBefore notSeconds more)
  · obtain rfl : lexicalClass = durationClass :=
      eq_of_kind member (by simp [table, durationClass]) duration
    exact lexeme?_of_stableBefore rfl (durationPattern_stableBefore notInteger more)
  · obtain rfl : lexicalClass = floatClass :=
      eq_of_kind member (by simp [table, floatClass]) float
    exact lexeme?_of_stableBefore rfl (floatPattern_stableBefore notInteger more)
  · exact LexicalClass.lexeme?_append rfl ends first rest more

end Dots

/-- A word that is a token of its kind where nothing follows it. The sign of a number belongs to it
only behind a comparator. -/
def IsWord (after : Bool) (kind : TokenKind) (word : List Char) : Prop :=
  nextToken? after word = some (kind, word)

namespace IsWord

variable {after : Bool} {kind : TokenKind} {word : List Char}

theorem exists_cons (isWord : IsWord after kind word) : ∃ first rest, word = first :: rest := by
  cases word with
  | nil => cases isWord
  | cons first rest => exact ⟨first, rest, rfl⟩

/-- What is a word where no comparator stands before it is one behind every token: only a sign makes
a difference, and a word that starts with one is that sign. -/
theorem of_false (isWord : IsWord false kind word) (noMinus : kind ≠ .minus) (after : Bool) :
    IsWord after kind word := by
  have unsigned : startsNegation false word = false := by
    refine Bool.eq_false_iff.mpr fun minus => noMinus ?_
    rw [IsWord, nextToken?, if_pos minus] at isWord
    exact (congrArg Prod.fst (Option.some.inj isWord)).symm
  have unsignedHere : startsNegation after word = false := by
    refine Bool.eq_false_iff.mpr fun minus => ?_
    obtain ⟨rest, rfl⟩ := exists_of_startsNegation minus
    cases rest <;> cases unsigned
  rw [IsWord, nextToken?, unsigned] at isWord
  rw [IsWord, nextToken?, unsignedHere]
  exact isWord

/-- A whole number is a word of no other kind. -/
theorem integer_of_isInteger (isWord : IsWord after kind word) (isInteger : IsInteger word) :
    startsNegation after word = false ∧ kind = .integer := by
  have unsigned : startsNegation after word = false := by
    rcases nextToken?_eq_some_iff.mp isWord with ⟨-, -, rfl⟩ | ⟨unsigned, -⟩
    · cases isInteger
    · exact unsigned
  refine ⟨unsigned, ?_⟩
  exact congrArg Prod.fst (Option.some.inj (isWord.symm.trans (isInteger.nextToken?_eq unsigned)))

theorem isInteger (isWord : IsWord after .integer word) : IsInteger word := by
  have read : integerClass.lexeme? word = some word :=
    (lexeme?_of_nextToken? isWord (by simp [table, integerClass]) rfl).2
  exact split?_of_lexeme? read

/-- Where a word is neither a whole number nor a date that stops at its seconds, it is the same
token before a dot. -/
theorem nextToken?_dot (isWord : IsWord after kind word) (notInteger : ¬ IsInteger word)
    (notSeconds : ¬ IsSeconds word) (rest : List Char) :
    nextToken? after (word ++ '.' :: rest) = some (kind, word) := by
  obtain ⟨first, tail, rfl⟩ := isWord.exists_cons
  have sign := startsNegation_append (show '.'.isDigit = false by decide) after first tail rest
  refine nextToken?_eq_some_iff.mpr ?_
  rw [sign]
  rcases nextToken?_eq_some_iff.mp isWord with
    minus | ⟨unsigned, earlier, chosen, later, order, chosenKind, read, failed⟩
  · exact .inl minus
  · have same := lexeme?_dot (by simp [order]) read notInteger notSeconds rest
    refine .inr ⟨unsigned, earlier, chosen, later, order, chosenKind, ?_, fun other listed => ?_⟩
    · rw [same chosen (by simp [order]), read]
    · rw [same other (by simp [order, listed]), failed other listed]

/-- A word that is a date is no token of another kind. -/
theorem kind_of_isSeconds (isWord : IsWord after kind word) (isSeconds : IsSeconds word) :
    kind = .datetime :=
  congrArg Prod.fst (Option.some.inj (isWord.symm.trans (isSeconds.nextToken?_eq after)))

/-- A word is the same token before a dot unless the dot starts a fraction: behind a whole number
that needs a number, and behind a date that stops at its seconds a digit. -/
theorem nextToken?_dot_iff (isWord : IsWord after kind word) (rest : List Char) :
    nextToken? after (word ++ '.' :: rest) = some (kind, word) ↔
      ¬ (kind = .integer ∧ StartsFraction rest) ∧
        ¬ (IsSeconds word ∧ startsWithDigit rest = true) := by
  by_cases whole : IsInteger word
  · obtain ⟨unsigned, rfl⟩ := isWord.integer_of_isInteger whole
    have notSeconds : ¬ IsSeconds word := by
      intro isSeconds
      cases isWord.kind_of_isSeconds isSeconds
    simp [nextToken?_integer_dot whole unsigned, notSeconds]
  · have notInteger : kind ≠ .integer := by
      rintro rfl
      exact whole isWord.isInteger
    by_cases isSeconds : IsSeconds word
    · obtain rfl := isWord.kind_of_isSeconds isSeconds
      simp [isSeconds.nextToken?_dot_iff, isSeconds]
    · simp [isWord.nextToken?_dot whole isSeconds, notInteger, isSeconds]

end IsWord

section Contexts

variable {after : Bool} {kind : TokenKind} {word rest : List Char}

/-- The texts of the tokens of a kind that has only a few. -/
def TokenKind.spellings : TokenKind → List String
  | .leftParen => ["("]
  | .rightParen => [")"]
  | .dot => ["."]
  | .comparator => ["<=", ">=", "!=", "<", ">", "=", ":"]
  | .and => ["AND"]
  | .or => ["OR"]
  | .not => ["NOT"]
  | .minus => ["-"]
  | .boolean => ["true", "false"]
  | .asterisk => ["*"]
  | .string | .datetime | .duration | .float | .integer | .text => []

/-- What the class of a kind with only a few tokens takes is one of them. -/
theorem mem_spellings_of_split? {text lexeme : List Char} :
    ∀ lexicalClass ∈ LexicalClass.table, lexicalClass.kind.spellings ≠ [] →
      lexicalClass.pattern.split? text = some (lexeme, rest) →
      String.ofList lexeme ∈ lexicalClass.kind.spellings := by
  have character {c : Char} (taken : (is c).split? text = some (lexeme, rest)) :
      String.ofList lexeme ∈ [String.ofList [c]] := by
    rw [(is_split?_eq_some_iff.mp taken).2]
    exact List.mem_singleton_self _
  have keyword {wanted : String} (taken : (Pattern.word wanted).split? text = some (lexeme, rest)) :
      String.ofList lexeme = wanted := by
    rw [split?_word taken, String.ofList_toList]
  have single {wanted : String} (taken : (Pattern.word wanted).split? text = some (lexeme, rest)) :
      String.ofList lexeme ∈ [wanted] := by
    rw [keyword taken]
    exact List.mem_singleton_self _
  simp only [LexicalClass.table, List.forall_mem_cons]
  refine ⟨fun _ => character, fun _ => character, fun _ => comparatorPattern_split?,
    fun _ => character, fun none => absurd rfl none, fun _ => single, fun _ => single,
    fun _ => single, fun _ taken => ?_, fun none => absurd rfl none, fun none => absurd rfl none,
    fun none => absurd rfl none, fun none => absurd rfl none, fun _ => character,
    fun none => absurd rfl none, List.forall_mem_nil _⟩
  rcases split?_choice taken with isTrue | isFalse
  · simp [TokenKind.spellings, keyword isTrue]
  · simp [TokenKind.spellings, keyword isFalse]

/-- A token of a kind that has only a few is one of them. -/
theorem mem_spellings_of_nextToken? {text lexeme : List Char}
    (found : nextToken? after text = some (kind, lexeme)) (few : kind.spellings ≠ []) :
    String.ofList lexeme ∈ kind.spellings := by
  rcases nextToken?_eq_some_iff.mp found with
    ⟨-, rfl, rfl⟩ | ⟨-, earlier, chosen, later, order, rfl, read, -⟩
  · exact List.mem_singleton_self _
  · obtain ⟨rest, taken, -⟩ := lexeme?_eq_some_iff.mp read
    exact mem_spellings_of_split? chosen (by simp [order]) few taken

/-- The tokens of a kind that has only a few are words. -/
theorem isWord_of_mem_spellings {text : String} (listed : text ∈ kind.spellings) :
    IsWord after kind text.toList := by
  have all : ∀ after, ∀ text ∈ kind.spellings,
      nextToken? after text.toList = some (kind, text.toList) := by
    cases kind <;> decide
  exact all after text listed

/-- A class has all of a token where nothing follows it. -/
theorem lexeme?_alone {lexicalClass : LexicalClass} (listed : lexicalClass ∈ LexicalClass.table)
    (read : lexicalClass.lexeme? (word ++ rest) = some word) :
    lexicalClass.lexeme? word = some word := by
  obtain ⟨behind, taken, -⟩ := lexeme?_eq_some_iff.mp read
  obtain rfl : behind = rest := List.append_cancel_left (split?_append taken)
  have alone : lexicalClass.pattern.split? (word ++ []) = some (word, []) :=
    split?_of_append (table_shrinks lexicalClass listed) (by simpa using taken)
  rw [List.append_nil] at alone
  exact lexeme?_eq_some_iff.mpr ⟨[], alone, fun _ => rfl⟩

/-- The class of texts between quotation marks. -/
def stringClass : LexicalClass := ⟨.string, stringPattern, false⟩

/-- A token is a string exactly if the class of strings has it: no other class starts with a
quotation mark. -/
theorem nextToken?_string_iff {text lexeme : List Char} :
    nextToken? after text = some (.string, lexeme) ↔ stringClass.lexeme? text = some lexeme := by
  constructor
  · intro found
    exact (lexeme?_of_nextToken? found (by simp [table, stringClass]) rfl).2
  · intro read
    obtain ⟨last, taken, -⟩ := lexeme?_eq_some_iff.mp read
    obtain ⟨inside, content, rfl, -⟩ := stringPattern_split?_iff.mp taken
    have order : LexicalClass.table =
        LexicalClass.table.take 4 ++ stringClass :: LexicalClass.table.drop 5 := rfl
    have others : ∀ other ∈ LexicalClass.table.take 4,
        other ∈ LexicalClass.table ∧ other.kind ≠ .string := by
      intro other listed
      have kinds : ∀ other ∈ LexicalClass.table.take 4, other.kind ≠ .string := by decide
      exact ⟨List.mem_of_mem_take listed, kinds other listed⟩
    refine nextToken?_eq_some_iff.mpr (.inr ⟨startsNegation_of_ne (by decide) _ _, _, _, _, order,
      rfl, read, fun other listed => ?_⟩)
    exact lexeme?_quotationMark inside other (others other listed).1 (others other listed).2

theorem IsInteger.startsNegation_append (isInteger : IsInteger word) (after : Bool)
    (more : List Char) : startsNegation after (word ++ more) = startsNegation after word := by
  obtain ⟨sign, digits, rfl, rfl | rfl, nonempty, areDigits⟩ := isInteger_iff.mp isInteger
  · obtain ⟨c, tail, rfl⟩ := List.exists_cons_of_ne_nil nonempty
    have noMinus : c ≠ '-' := by
      rintro rfl
      cases areDigits '-' (by simp)
    simp [startsNegation_of_ne noMinus]
  · obtain ⟨c, tail, rfl⟩ := List.exists_cons_of_ne_nil nonempty
    rfl

/-- A number starts with a whole number, and neither a digit nor a hyphen follows that. -/
theorem exists_isInteger {lexicalClass : LexicalClass} (listed : lexicalClass ∈ numberClasses)
    {text lexeme : List Char} (read : lexicalClass.lexeme? text = some lexeme) :
    ∃ word more, text = word ++ more ∧ IsInteger word ∧ startsWithDigit more = false ∧
      more.head? ≠ some '-' := by
  -- The sign and the digits are the whole number; what follows depends on the class.
  have parts {sign unsigned digits behind : List Char}
      (signFound : (optionally (is '-')).split? text = some (sign, unsigned))
      (digitsFound : number.split? unsigned = some (digits, behind))
      (noHyphen : behind.head? ≠ some '-') :
      ∃ word more, text = word ++ more ∧ IsInteger word ∧ startsWithDigit more = false ∧
        more.head? ≠ some '-' := by
    obtain ⟨rfl, nonempty, areDigits, noDigit⟩ := number_split?_eq_some_iff.mp digitsFound
    refine ⟨sign ++ digits, behind, ?_, ?_, noDigit, noHyphen⟩
    · rw [← split?_append signFound, List.append_assoc]
    · exact isInteger_iff.mpr
        ⟨sign, digits, rfl, isSign_of_split? signFound, nonempty, areDigits⟩
  have starts {behind : List Char} (hyphen : behind.head? = some '-') :
      ∃ tail, behind = '-' :: tail := by
    cases behind with
    | nil => cases hyphen
    | cons c tail => exact ⟨tail, by simpa using hyphen⟩
  obtain ⟨last, taken, ends⟩ := lexeme?_eq_some_iff.mp read
  simp only [numberClasses, List.mem_cons, List.not_mem_nil, or_false] at listed
  rcases listed with rfl | rfl | rfl
  · obtain ⟨sign, digits, fraction, unsigned, behind, signFound, digitsFound, fractionFound, -⟩ :=
      durationPattern_split?_iff.mp taken
    refine parts signFound digitsFound fun hyphen => ?_
    obtain ⟨tail, rfl⟩ := starts hyphen
    rw [fractionPattern_of_ne (by decide)] at fractionFound
    simp at fractionFound
  · obtain ⟨sign, unsigned, digits, behind, signFound, digitsFound, floatTail⟩ :=
      floatPattern_split?_iff.mp ⟨_, taken⟩
    refine parts signFound digitsFound fun hyphen => ?_
    obtain ⟨tail, rfl⟩ := starts hyphen
    cases floatTail with
    | exponent exponentFound =>
      have none : exponentPattern.split? ('-' :: tail) = none :=
        split?_eq_none_of_refusesFirst (by decide) tail
      cases none.symm.trans exponentFound
  · obtain ⟨sign, unsigned, digits, signFound, digitsFound, -⟩ := split?_seq_eq_some_iff.mp taken
    refine parts signFound digitsFound fun hyphen => ?_
    obtain ⟨tail, rfl⟩ := starts hyphen
    cases ends rfl

/-- A number starts with a sign or a digit. -/
theorem lexeme?_eq_none_of_numberClass {lexicalClass : LexicalClass}
    (listed : lexicalClass ∈ LexicalClass.table) (isNumber : lexicalClass.kind ∈ numberKinds)
    {c : Char} (notNumeric : c ∉ '-' :: asciiDigits) (rest : List Char) :
    lexicalClass.lexeme? (c :: rest) = none := by
  obtain ⟨numberClass, numberListed, sameKind⟩ := List.mem_map.mp isNumber
  obtain rfl := eq_of_kind (numberClasses_subset numberListed) listed sameKind
  refine Option.eq_none_iff_forall_ne_some.mpr fun lexeme read => ?_
  obtain ⟨word, more, same, isInteger, -⟩ := exists_isInteger numberListed read
  obtain ⟨first, tail, rfl, numeric⟩ := isInteger.exists_first
  obtain ⟨rfl, -⟩ := List.cons_eq_cons.mp same
  exact notNumeric numeric

/-- No unit of time follows the digits of a floating-point number. -/
theorem FloatTail.fractionPattern_split?_ne {behind : List Char} (floatTail : FloatTail behind [])
    (fraction last : List Char) : fractionPattern.split? behind ≠ some (fraction, 's' :: last) := by
  intro fractionFound
  have noExponent : exponentPattern.split? ('s' :: last) = none :=
    split?_eq_none_of_refusesFirst (by decide) last
  cases floatTail with
  | fraction numbered exponentFound =>
    rw [fractionPattern_dot_of_number numbered] at fractionFound
    obtain ⟨-, rfl⟩ := Prod.mk.inj (Option.some.inj fractionFound)
    simp [optionally, split?, noExponent] at exponentFound
  | exponent exponentFound =>
    cases behind with
    | nil => cases exponentFound
    | cons c tail =>
      have noDot : c ≠ '.' := by
        rintro rfl
        cases (exponentPattern_dot tail).symm.trans exponentFound
      rw [fractionPattern_of_ne noDot] at fractionFound
      obtain ⟨-, same⟩ := Prod.mk.inj (Option.some.inj fractionFound)
      rw [same, noExponent] at exponentFound
      cases exponentFound

/-- A floating-point number is no duration. -/
theorem duration_lexeme?_of_float (read : floatClass.lexeme? word = some word) :
    durationClass.lexeme? word = none := by
  obtain ⟨sign, unsigned, digits, behind, signFound, digitsFound, floatTail⟩ :=
    floatPattern_split?_iff.mp ⟨_, split?_of_lexeme? read⟩
  refine Option.eq_none_iff_forall_ne_some.mpr fun lexeme readAgain => ?_
  obtain ⟨last, takenAgain, -⟩ := lexeme?_eq_some_iff.mp readAgain
  obtain ⟨_, _, fraction, _, _, signAgain, digitsAgain, fractionFound, -⟩ :=
    durationPattern_split?_iff.mp takenAgain
  obtain ⟨rfl, rfl⟩ := Prod.mk.inj (Option.some.inj (signFound.symm.trans signAgain))
  obtain ⟨rfl, rfl⟩ := Prod.mk.inj (Option.some.inj (digitsFound.symm.trans digitsAgain))
  exact floatTail.fractionPattern_split?_ne fraction last fractionFound

/-- A number of a class that no other class before it has is a word. -/
theorem isWord_of_number {earlier later : List LexicalClass} {lexicalClass : LexicalClass}
    (order : numberClasses = earlier ++ lexicalClass :: later)
    (unsigned : startsNegation after (word ++ rest) = false)
    (read : lexicalClass.lexeme? word = some word)
    (failed : ∀ other ∈ earlier, other.lexeme? word = none) :
    IsWord after lexicalClass.kind word := by
  obtain ⟨whole, more, rfl, isInteger, noDigit, noHyphen⟩ :=
    exists_isInteger (by simp [order]) read
  rw [List.append_assoc, isInteger.startsNegation_append] at unsigned
  have same := isInteger.startsNegation_append after more
  rw [IsWord, nextToken?_number isInteger (same.trans unsigned) noDigit noHyphen, order,
    List.append_assoc]
  refine List.findSome?_eq_some_iff.mpr ⟨earlier, lexicalClass, _, rfl, by simp [read], ?_⟩
  intro other listed
  simp [failed other listed]

/-- A token that is no text is a word: it is the same token where nothing follows it. -/
theorem isWord_of_nextToken? (found : nextToken? after (word ++ rest) = some (kind, word))
    (noText : kind ≠ .text) : IsWord after kind word := by
  have alone (lexicalClass : LexicalClass) (listed : lexicalClass ∈ LexicalClass.table)
      (sameKind : lexicalClass.kind = kind) :
      startsNegation after (word ++ rest) = false ∧ lexicalClass.lexeme? word = some word := by
    obtain ⟨unsigned, read⟩ := lexeme?_of_nextToken? found listed sameKind
    exact ⟨unsigned, lexeme?_alone listed read⟩
  by_cases few : kind.spellings ≠ []
  · have isWord : IsWord after kind (String.ofList word).toList :=
      isWord_of_mem_spellings (mem_spellings_of_nextToken? found few)
    rwa [String.toList_ofList] at isWord
  · cases kind with
    | leftParen | rightParen | dot | comparator | and | or | not | minus | boolean | asterisk =>
      exact absurd (List.cons_ne_nil _ _) few
    | text => exact absurd rfl noText
    | string =>
      exact nextToken?_string_iff.mpr (alone stringClass (by simp [table, stringClass]) rfl).2
    | datetime =>
      exact nextToken?_datetime_iff.mpr (alone datetimeClass (by simp [table, datetimeClass]) rfl).2
    | duration =>
      obtain ⟨unsigned, read⟩ := alone durationClass (by simp [table, durationClass]) rfl
      have order : numberClasses = [] ++ durationClass :: [floatClass, integerClass] := rfl
      exact isWord_of_number order unsigned read (List.forall_mem_nil _)
    | float =>
      obtain ⟨unsigned, read⟩ := alone floatClass (by simp [table, floatClass]) rfl
      have order : numberClasses = [durationClass] ++ floatClass :: [integerClass] := rfl
      exact isWord_of_number order unsigned read
        (List.forall_mem_singleton.mpr (duration_lexeme?_of_float read))
    | integer =>
      obtain ⟨unsigned, read⟩ := alone integerClass (by simp [table, integerClass]) rfl
      have isInteger : IsInteger word := split?_of_lexeme? read
      have sameSign := isInteger.startsNegation_append after rest
      exact isInteger.nextToken?_eq (sameSign.symm.trans unsigned)

end Contexts

end FilterQuery
