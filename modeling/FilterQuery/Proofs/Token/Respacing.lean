import FilterQuery.Proofs.Token.Coverage

/-!
# Words with blanks between them

The tokens of a text are written again with one blank between them. What is read back are the same
words, and every token that was no text is a token of the same kind again.

A text may turn into something else. The characters that end a word are not quite those that end a
text: a form feed and a quotation mark end a text, but they do not end a word. So a keyword, a
truth value, a number, a date or an asterisk is a mere text directly before one of these two, and
only there.
-/

namespace FilterQuery

open LexicalClass Pattern

section Delimiters

variable {word : List Char}

/-- The delimiters are reserved, as are two characters that are none. -/
theorem isReserved_iff {c : Char} :
    isReserved c = true ↔ isDelimiter c = true ∨ c = '\x0c' ∨ c = '"' := by
  have characters : ∀ c ∈ " \t\n\r\x0c()=<>!:.,\"".toList,
      isDelimiter c = true ∨ c = '\x0c' ∨ c = '"' := List.all_iff_forall_prop.mp (by decide)
  have delimiters : ∀ c ∈ " \t\r\n()=<>!:.,".toList, isReserved c = true :=
    List.all_iff_forall_prop.mp (by decide)
  constructor
  · intro reserved
    exact characters c (by simpa [isReserved, isSeparator, or_assoc] using reserved)
  · rintro (delimiter | rfl | rfl)
    · exact delimiters c (List.contains_iff_mem.mp delimiter)
    · rfl
    · rfl

/-- What the pattern of texts takes has no reserved character, and one ends it. -/
theorem unreserved_of_textPattern {text rest : List Char}
    (taken : textPattern.split? text = some (word, rest)) :
    (∃ first tail, word = first :: tail ∧ first ≠ '-') ∧ (∀ c ∈ word, isReserved c = false) ∧
      ∀ c more, rest = c :: more → isReserved c = true := by
  obtain ⟨_, middle, others, firstFound, othersFound, rfl⟩ := split?_seq_eq_some_iff.mp taken
  cases text with
  | nil => cases firstFound
  | cons first tail =>
    obtain ⟨⟨free, noMinus⟩, rfl, rfl⟩ :
        (isReserved first = false ∧ first ≠ '-') ∧ [first] = _ ∧ tail = middle := by
      simpa [split?] using firstFound
    rw [split?_many_char, Option.some.injEq, Prod.mk.injEq] at othersFound
    obtain ⟨rfl, rfl⟩ := othersFound
    refine ⟨⟨first, _, rfl, noMinus⟩, List.forall_mem_cons.mpr ⟨free, fun c listed => ?_⟩, ?_⟩
    · simpa using List.mem_takeWhile_imp listed
    · intro c more stopped
      have refused := List.head?_dropWhile_not (fun c => !isReserved c) tail
      rw [stopped] at refused
      simpa using refused

theorem kind_ne_text_of_delimited :
    ∀ lexicalClass ∈ table, lexicalClass.delimited = true → lexicalClass.kind ≠ .text := by
  decide

/-- A delimited class takes all of a word without delimiters, or nothing. -/
theorem lexeme?_unreserved {lexicalClass : LexicalClass} (delimited : lexicalClass.delimited = true)
    (unreserved : ∀ c ∈ word, isReserved c = false) {lexeme : List Char}
    (read : lexicalClass.lexeme? word = some lexeme) : lexeme = word := by
  obtain ⟨rest, taken, ends⟩ := lexeme?_eq_some_iff.mp read
  have whole := split?_append taken
  cases rest with
  | nil => rwa [List.append_nil] at whole
  | cons c tail =>
    have reserved : isReserved c = true := isReserved_iff.mpr (.inl (ends delimited))
    cases (unreserved c (by simp [← whole])).symm.trans reserved

/-- A date without reserved characters has no time of day, for that has a colon. -/
theorem dateParts_of_unreserved (unreserved : ∀ c ∈ word, isReserved c = false)
    (taken : datetimePattern.split? word = some (word, [])) :
    (all dateParts).split? word = some (word, []) := by
  rw [datetimePattern_eq, split?_all_append] at taken
  obtain ⟨date, timed, time, dateFound, timeFound, whole⟩ := split?_seq_eq_some_iff.mp taken
  rw [split?_all_singleton] at timeFound
  rcases split?_choice timeFound with clock | nothing
  · obtain ⟨_, _, rfl, -, further⟩ := matches_seq_iff.mp (matches_of_split? clock)
    obtain ⟨_, _, rfl, -, behind⟩ := matches_seq_iff.mp further
    obtain ⟨_, _, rfl, colon, -⟩ := matches_seq_iff.mp behind
    obtain rfl := matches_is_iff.mp colon
    cases unreserved ':' (by simp [← whole])
  · obtain ⟨rfl, rfl⟩ : [] = time ∧ timed = [] := by simpa [split?] using nothing
    rw [List.append_nil] at whole
    rwa [whole] at dateFound

/-- A date before a delimiter is a date without a time of day. -/
theorem datetimePattern_of_date {text date more : List Char} {c : Char}
    (found : (all dateParts).split? text = some (date, c :: more))
    (delimiter : isDelimiter c = true) :
    datetimePattern.split? text = some (date, c :: more) := by
  have refuse : ∀ c ∈ " \t\r\n()=<>!:.,".toList, (oneOf "Tt").refusesFirst c = true :=
    List.all_iff_forall_prop.mp (by decide)
  have noTime (behind : List Pattern) :
      (all [optionally (all (clockParts ++ behind))]).split? (c :: more) =
        some ([], c :: more) := by
    have refuses : (all (clockParts ++ behind)).refusesFirst c = true :=
      refuse c (List.contains_iff_mem.mp delimiter)
    have refused := split?_eq_none_of_refusesFirst refuses more
    rw [split?_all_singleton]
    simp [optionally, split?, refused]
  rw [datetimePattern_eq, split?_all_append]
  exact split?_seq_eq_some_iff.mpr ⟨date, c :: more, [], found, noTime _, List.append_nil date⟩

/-- A delimited class that has a word without reserved characters where nothing follows has it
before every delimiter. -/
theorem lexeme?_before_delimiter {lexicalClass : LexicalClass} (listed : lexicalClass ∈ table)
    (delimited : lexicalClass.delimited = true) (unreserved : ∀ c ∈ word, isReserved c = false)
    (read : lexicalClass.lexeme? word = some word) {c : Char} (delimiter : isDelimiter c = true)
    (more : List Char) :
    ∃ other ∈ table, other.kind ≠ .text ∧ other.lexeme? (word ++ c :: more) = some word := by
  have classes : ∀ c ∈ " \t\r\n()=<>!:.,".toList, ∀ lexicalClass ∈ table,
      lexicalClass.delimited = true →
        lexicalClass.pattern.rejects c = true ∨ lexicalClass.kind = .datetime ∨
          (c = '.' ∧ (lexicalClass.kind = .duration ∨ lexicalClass.kind = .float)) :=
    List.all_iff_forall_prop.mp (by decide)
  have stable {other : LexicalClass} (whole : other.lexeme? word = some word)
      (unchanged : other.pattern.StableBefore (c :: more) word) :
      other.lexeme? (word ++ c :: more) = some word :=
    (lexeme?_of_stableBefore delimiter unchanged).trans whole
  have noText := kind_ne_text_of_delimited lexicalClass listed delimited
  rcases classes c (List.contains_iff_mem.mp delimiter) lexicalClass listed delimited with
    rejects | date | ⟨rfl, number⟩
  · exact ⟨lexicalClass, listed, noText, stable read (.of_rejects rejects more word)⟩
  · obtain rfl : lexicalClass = datetimeClass :=
      eq_of_kind listed (by simp [table, datetimeClass]) date
    have dateFound := dateParts_of_unreserved unreserved (split?_of_lexeme? read)
    have whole : datetimePattern.split? (word ++ c :: more) = some (word, c :: more) :=
      datetimePattern_of_date (split?_extend_of_isRigid (by decide) dateFound (c :: more)) delimiter
    exact ⟨datetimeClass, listed, noText,
      lexeme?_eq_some_iff.mpr ⟨c :: more, whole, fun _ => delimiter⟩⟩
  · -- A dot goes on only with a whole number, and that is a word before the dot all the same.
    by_cases isInteger : IsInteger word
    · have whole : integerClass.lexeme? word = some word :=
        lexeme?_eq_some_iff.mpr ⟨[], isInteger, fun _ => rfl⟩
      exact ⟨integerClass, by simp [table, integerClass], by decide,
        stable whole (.of_rejects (by decide) more word)⟩
    · refine ⟨lexicalClass, listed, noText, stable read ?_⟩
      rcases number with duration | float
      · obtain rfl : lexicalClass = durationClass :=
          eq_of_kind listed (by simp [table, durationClass]) duration
        exact durationPattern_stableBefore isInteger more
      · obtain rfl : lexicalClass = floatClass :=
          eq_of_kind listed (by simp [table, floatClass]) float
        exact floatPattern_stableBefore isInteger more

end Delimiters

section Alone

variable {after : Bool} {word rest : List Char}

/-- Where a text is read, no other class has a token. -/
theorem lexeme?_eq_none_of_text {text lexeme : List Char}
    (found : nextToken? after text = some (.text, lexeme)) {lexicalClass : LexicalClass}
    (listed : lexicalClass ∈ table) (noText : lexicalClass.kind ≠ .text) :
    lexicalClass.lexeme? text = none := by
  have order : table = table.take 14 ++ [textClass] := rfl
  have kinds : ∀ other ∈ table.take 14, other.kind ≠ .text := by decide
  have early : lexicalClass ∈ table.take 14 := by
    rw [order, List.mem_append, List.mem_singleton] at listed
    rcases listed with early | rfl
    · exact early
    · exact absurd rfl noText
  unfold nextToken? at found
  split at found
  · cases found
  · rw [order, List.findSome?_append] at found
    cases sooner : (table.take 14).findSome? fun other =>
        (other.lexeme? text).map (other.kind, ·) with
    | some read =>
      rw [sooner, Option.some_or] at found
      obtain ⟨other, otherListed, otherRead⟩ := List.exists_of_findSome?_eq_some sooner
      obtain ⟨_, -, rfl⟩ := Option.map_eq_some_iff.mp otherRead
      exact absurd (congrArg Prod.fst (Option.some.inj found)) (kinds other otherListed)
    | none => simpa using List.findSome?_eq_none_iff.mp sooner lexicalClass early

/-- Only texts and words of delimited classes start with a character that is not reserved. -/
theorem lexeme?_eq_none_of_unreserved {lexicalClass : LexicalClass} (listed : lexicalClass ∈ table)
    (undelimited : lexicalClass.delimited = false) (noText : lexicalClass.kind ≠ .text) {c : Char}
    (free : isReserved c = false) (rest : List Char) : lexicalClass.lexeme? (c :: rest) = none := by
  have noSign : c ∉ ['(', ')', '<', '>', '!', '=', ':', '.', '"'] := by
    have reserved : ∀ sign ∈ ['(', ')', '<', '>', '!', '=', ':', '.', '"'],
        isReserved sign = true := List.all_iff_forall_prop.mp (by decide)
    intro member
    cases free.symm.trans (reserved c member)
  simp only [List.mem_cons, List.not_mem_nil, or_false, not_or] at noSign
  have signs : (is '(').refusesFirst c = true ∧ (is ')').refusesFirst c = true ∧
      comparatorPattern.refusesFirst c = true ∧ (is '.').refusesFirst c = true ∧
      stringPattern.refusesFirst c = true := by
    simp [comparatorPattern, stringPattern, word, all, is, refusesFirst, noSign]
  have refuses : ∀ lexicalClass ∈ table, lexicalClass.delimited = false →
      lexicalClass.kind ≠ .text → lexicalClass.pattern.refusesFirst c = true := by
    simp [table, signs]
  exact LexicalClass.lexeme?_eq_none
    (split?_eq_none_of_refusesFirst (refuses lexicalClass listed undelimited noText) rest)

/-- Where nothing follows it, a text is a word, if only of a delimited class. -/
theorem exists_isWord_of_text (alone : textClass.lexeme? word = some word) :
    ∃ lexicalClass ∈ table, lexicalClass.lexeme? word = some word ∧
      (lexicalClass.kind = .text ∨ lexicalClass.delimited = true) ∧
      ∀ after, IsWord after lexicalClass.kind word := by
  have noMinusKind : ∀ lexicalClass ∈ table, lexicalClass.kind ≠ .minus := by decide
  obtain ⟨⟨first, tail, rfl, noMinus⟩, unreserved, -⟩ :=
    unreserved_of_textPattern (split?_of_lexeme? alone)
  cases found : nextToken? false (first :: tail) with
  | none =>
    have noText := (nextToken?_eq_none_iff_table.mp found).2 textClass textClass_mem_table
    cases noText.symm.trans alone
  | some token =>
    obtain ⟨kind, lexeme⟩ := token
    rcases nextToken?_eq_some_iff.mp found with
      ⟨minus, -⟩ | ⟨-, earlier, lexicalClass, later, order, rfl, read, -⟩
    · cases (startsNegation_of_ne noMinus false tail).symm.trans minus
    · have listed : lexicalClass ∈ table := by simp [order]
      have kind : lexicalClass.kind = .text ∨ lexicalClass.delimited = true := by
        by_contra neither
        obtain ⟨noText, undelimited⟩ := not_or.mp neither
        have missing := lexeme?_eq_none_of_unreserved listed (by simpa using undelimited) noText
          (unreserved first List.mem_cons_self) tail
        cases missing.symm.trans read
      have whole : lexeme = first :: tail := by
        rcases kind with isText | delimited
        · rw [eq_of_kind listed textClass_mem_table isText, alone] at read
          exact (Option.some.inj read).symm
        · exact lexeme?_unreserved delimited unreserved read
      subst whole
      exact ⟨lexicalClass, listed, read, kind, fun after =>
        IsWord.of_false found (noMinusKind lexicalClass listed) after⟩

/-- A text of a delimited class stands directly before a form feed or a quotation mark. -/
theorem exists_unended_of_delimited (found : nextToken? after (word ++ rest) = some (.text, word))
    {lexicalClass : LexicalClass} (listed : lexicalClass ∈ table)
    (delimited : lexicalClass.delimited = true) (read : lexicalClass.lexeme? word = some word) :
    ∃ c more, rest = c :: more ∧ (c = '\x0c' ∨ c = '"') := by
  obtain ⟨last, taken, -⟩ :=
    lexeme?_eq_some_iff.mp (lexeme?_of_nextToken? found textClass_mem_table rfl).2
  obtain rfl := List.append_cancel_left (split?_append taken)
  obtain ⟨-, unreserved, stops⟩ := unreserved_of_textPattern taken
  cases last with
  | nil =>
    rw [List.append_nil] at found
    have missing := lexeme?_eq_none_of_text found listed
      (kind_ne_text_of_delimited lexicalClass listed delimited)
    cases missing.symm.trans read
  | cons c more =>
    refine ⟨c, more, rfl, ?_⟩
    rcases isReserved_iff.mp (stops c more rfl) with delimiter | unended
    · obtain ⟨other, otherListed, noText, otherRead⟩ :=
        lexeme?_before_delimiter listed delimited unreserved read delimiter more
      cases (lexeme?_eq_none_of_text found otherListed noText).symm.trans otherRead
    · exact unended

end Alone

section Turns

/-- A token that was read from a text, up to a place that reading reaches. -/
def Token.ReadIn (text : String) (after : Bool) (token : Token) : Prop :=
  ∃ last rest, Place.Reached text ⟨token.stop, last, rest⟩ ∧
    nextToken? after (token.text.toList ++ rest) = some (token.kind, token.text.toList)

/-- The tokens of a run were read one after the other. -/
theorem Place.Steps.inTurn {text : String} {place finish : Place} {read : Scan}
    (steps : place.Steps read finish) (reached : place.Reached text) :
    InTurn (Token.ReadIn text) (afterComparator place.last) read.tokens := by
  induction steps with
  | refl => trivial
  | cons step _ inductionHypothesis =>
    have others := inductionHypothesis (reached.step step)
    have behind := reached.step step
    cases step with
    | separator | stray => exact others
    | @token position last kind lexeme rest found =>
      refine ⟨⟨some kind, rest, ?_, ?_⟩, others⟩
      · rwa [Token.stop_ofList]
      · rwa [String.toList_ofList]

/-- The kind and the text of a token, wherever it stands. -/
def Token.pair (token : Token) : TokenKind × String := (token.kind, token.text)

/-- A token directly before a form feed or a quotation mark. -/
def Token.Unended (text : String) (token : Token) : Prop :=
  ∃ byte ∈ Text.utf8Bytes "\x0c\"", (Text.utf8Bytes text)[token.stop]? = some byte

/-- What may become of a token of a text where a blank follows it: it stays what it is, but for a
text directly before a form feed or a quotation mark that is a whole word of a delimited class. -/
def Token.ReadAgainAs (text : String) (token : Token) (again : TokenKind × String) : Prop :=
  again.2 = token.text ∧ (again.1 = token.kind ∨ (token.kind = .text ∧ token.Unended text ∧
    ∃ lexicalClass ∈ table, lexicalClass.delimited = true ∧ lexicalClass.kind = again.1 ∧
      lexicalClass.lexeme? token.text.toList = some token.text.toList))

variable {text : String} {after : Bool}

/-- What becomes of a token is a word. -/
theorem Token.ReadIn.exists_isWord {token : Token} (readIn : token.ReadIn text after) :
    ∃ kind, token.ReadAgainAs text (kind, token.text) ∧
      FilterQuery.IsWord after kind token.text.toList ∧
      (kind == .comparator) = (token.kind == .comparator) := by
  obtain ⟨last, rest, reached, found⟩ := readIn
  by_cases isText : token.kind = .text
  · rw [isText] at found
    have read := (lexeme?_of_nextToken? found textClass_mem_table rfl).2
    obtain ⟨lexicalClass, listed, whole, kind, isWord⟩ :=
      exists_isWord_of_text (lexeme?_alone textClass_mem_table read)
    have noComparator : ∀ lexicalClass ∈ table,
        lexicalClass.kind = .text ∨ lexicalClass.delimited = true →
        (lexicalClass.kind == .comparator) = (TokenKind.text == .comparator) := by decide
    refine ⟨lexicalClass.kind, ⟨rfl, ?_⟩, isWord after, ?_⟩
    · rcases kind with same | delimited
      · exact .inl (same.trans isText.symm)
      · refine .inr ⟨isText, ?_, lexicalClass, listed, delimited, rfl, whole⟩
        obtain ⟨c, more, rfl, unended⟩ := exists_unended_of_delimited found listed delimited whole
        rcases unended with rfl | rfl
        · exact ⟨_, by decide, reached.getElem?_utf8Bytes rfl rfl⟩
        · exact ⟨_, by decide, reached.getElem?_utf8Bytes rfl rfl⟩
    · rw [isText]
      exact noComparator lexicalClass listed kind
  · exact ⟨token.kind, ⟨rfl, .inl rfl⟩, isWord_of_nextToken? found isText, rfl⟩

theorem exists_words_of_inTurn {tokens : List Token}
    (inTurn : InTurn (Token.ReadIn text) after tokens) :
    ∃ words, List.Forall₂ (Token.ReadAgainAs text) tokens (words.map Token.pair) ∧
      InTurn Token.IsWord after words := by
  induction tokens generalizing after with
  | nil => exact ⟨[], .nil, trivial⟩
  | cons token rest inductionHypothesis =>
    obtain ⟨readIn, others⟩ := inTurn
    obtain ⟨kind, again, isWord, sameKind⟩ := readIn.exists_isWord
    rw [← sameKind] at others
    obtain ⟨words, againOthers, areWords⟩ := inductionHypothesis others
    exact ⟨⟨kind, token.text, 0⟩ :: words, .cons again againOthers, isWord, areWords⟩

end Turns

section Rereading

/-- The text of some tokens with one blank between them. -/
def respaced (tokens : List Token) : String := " ".intercalate (tokens.map Token.text)

variable {after : Bool}

theorem toList_respaced_cons (token next : Token) (rest : List Token) :
    (respaced (token :: next :: rest)).toList =
      token.text.toList ++ ' ' :: (respaced (next :: rest)).toList := by
  simp [respaced]

/-- Words with blanks between them are read back. -/
theorem scanFrom_respaced {words : List Token} (areWords : InTurn Token.IsWord after words)
    (position : Nat) :
    (scanFrom position after 0 (respaced words).toList).strays = [] ∧
      (scanFrom position after 0 (respaced words).toList).tokens.map Token.pair =
        words.map Token.pair := by
  induction words generalizing after position with
  | nil => exact ⟨rfl, rfl⟩
  | cons token rest inductionHypothesis =>
    obtain ⟨isWord, others⟩ := areWords
    obtain ⟨first, tail, characters⟩ := FilterQuery.IsWord.exists_cons isWord
    have nonempty : token.text.toList ≠ [] := by simp [characters]
    cases rest with
    | nil =>
      have alone : (respaced [token]).toList = token.text.toList ++ [] := by simp [respaced]
      have read : nextToken? after (token.text.toList ++ []) =
          some (token.kind, token.text.toList) := by rwa [List.append_nil]
      rw [alone, scanFrom_word nonempty read, String.ofList_toList]
      exact ⟨rfl, rfl⟩
    | cons next rest =>
      have read : nextToken? after (token.text.toList ++ ' ' :: (respaced (next :: rest)).toList) =
          some (token.kind, token.text.toList) := by
        unfold Token.IsWord FilterQuery.IsWord at isWord
        rw [characters] at isWord ⊢
        exact nextToken?_append (by decide) isWord _
      obtain ⟨clean, same⟩ := inductionHypothesis others
        (position + Text.utf8Length token.text.toList + ' '.utf8Size)
      rw [toList_respaced_cons, scanFrom_word nonempty read, String.ofList_toList,
        scanFrom_separator rfl]
      refine ⟨Scan.strays_append_eq_nil_iff.mpr ⟨rfl, clean⟩, ?_⟩
      rw [Scan.append, List.map_append, same]
      rfl

variable {text : String} {tokens : List Token} {again : List (TokenKind × String)}

theorem map_text_of_readAgainAs (same : List.Forall₂ (Token.ReadAgainAs text) tokens again) :
    again.map Prod.snd = tokens.map Token.text := by
  induction same with
  | nil => rfl
  | cons readAgain _ inductionHypothesis =>
    rw [List.map_cons, List.map_cons, inductionHypothesis, readAgain.1]

/-- A text is a whole word of no delimited class. -/
def Token.IsMereText (token : Token) : Prop :=
  token.kind = .text → ∀ lexicalClass ∈ table, lexicalClass.delimited = true →
    lexicalClass.lexeme? token.text.toList = none

theorem map_pair_of_readAgainAs (same : List.Forall₂ (Token.ReadAgainAs text) tokens again)
    (mere : ∀ token ∈ tokens, token.IsMereText) : again = tokens.map Token.pair := by
  induction same with
  | nil => rfl
  | @cons token pair _ _ readAgain _ inductionHypothesis =>
    obtain ⟨first, others⟩ := List.forall_mem_cons.mp mere
    obtain ⟨sameText, sameKind | ⟨isText, -, lexicalClass, listed, delimited, -, read⟩⟩ := readAgain
    · rw [List.map_cons, ← inductionHypothesis others, Token.pair, ← sameText, ← sameKind]
    · cases (first isText lexicalClass listed delimited).symm.trans read

/-- A word that is a text is a whole word of no delimited class. -/
theorem isMereText_of_isWord {after : Bool} {words : List Token}
    (areWords : InTurn Token.IsWord after words)
    (samePairs : words.map Token.pair = tokens.map Token.pair) :
    ∀ token ∈ tokens, token.IsMereText := by
  intro token listed isText lexicalClass inTable delimited
  have pairListed : token.pair ∈ words.map Token.pair := by
    rw [samePairs]
    exact List.mem_map_of_mem listed
  obtain ⟨word, wordListed, pairEq⟩ := List.mem_map.mp pairListed
  obtain ⟨kindEq, textEq⟩ := Prod.mk.inj pairEq
  obtain ⟨after, isWord⟩ := areWords.exists_of_mem wordListed
  unfold Token.IsWord FilterQuery.IsWord at isWord
  rw [kindEq, textEq, isText] at isWord
  exact lexeme?_eq_none_of_text isWord inTable
    (kind_ne_text_of_delimited lexicalClass inTable delimited)

/-- The tokens of a text, written with one blank between them, are read back as the same words, and
each is of its kind again, but for a text directly before a form feed or a quotation mark that is a
whole word of a delimited class. All kinds are the same exactly if no text is such a word. -/
theorem tokenize_respaced {text : String} {list : TokenList}
    (tokenized : tokenize text = .ok list) :
    ∃ again, tokenize (respaced list.tokens) = .ok again ∧
      List.Forall₂ (Token.ReadAgainAs text) list.tokens (again.tokens.map Token.pair) ∧
      (again.tokens.map Token.pair = list.tokens.map Token.pair ↔
        ∀ token ∈ list.tokens, token.IsMereText) := by
  obtain ⟨-, rfl⟩ := tokenize_eq_ok_iff.mp tokenized
  obtain ⟨finish, steps, -⟩ := Place.exists_steps (.start text)
  rw [Place.scan_start] at steps
  obtain ⟨words, readAgain, areWords⟩ := exists_words_of_inTurn (steps.inTurn ⟨_, .refl⟩)
  have sameTexts : respaced words = respaced (scan text).tokens := by
    have texts := map_text_of_readAgainAs readAgain
    rw [List.map_map] at texts
    exact congrArg " ".intercalate texts
  obtain ⟨clean, same⟩ := scanFrom_respaced areWords 0
  rw [sameTexts] at clean same
  refine ⟨_, tokenize_eq_ok_iff.mpr ⟨clean, rfl⟩, ?_⟩
  have readPairs : (scan (respaced (scan text).tokens)).tokens.map Token.pair =
      words.map Token.pair := same
  rw [readPairs]
  exact ⟨readAgain, isMereText_of_isWord areWords, map_pair_of_readAgainAs readAgain⟩

/-- A whole number behind a comparator, a keyword before a tab, and the same keyword before a form
feed. -/
theorem tokenize_respaced_keyword :
    ∃ list again, tokenize "n>-5 OR\tOR\x0c(b)" = .ok list ∧
      tokenize (respaced list.tokens) = .ok again ∧
      List.Forall₂ (Token.ReadAgainAs "n>-5 OR\tOR\x0c(b)") list.tokens
        (again.tokens.map Token.pair) := by
  have tokenized : tokenize "n>-5 OR\tOR\x0c(b)" = .ok _ := rfl
  obtain ⟨again, readAgain, same, -⟩ := tokenize_respaced tokenized
  exact ⟨_, again, tokenized, readAgain, same⟩

/-- The keyword is a text before a form feed, and it is a keyword before a blank. -/
theorem tokenize_respaced_formFeed :
    ∃ list again, tokenize "AND\x0cb" = .ok list ∧ tokenize (respaced list.tokens) = .ok again ∧
      list.tokens.map Token.pair = [(.text, "AND"), (.text, "b")] ∧
      again.tokens.map Token.pair = [(.and, "AND"), (.text, "b")] := by
  have spaced : respaced [⟨.text, "AND", 0⟩, ⟨.text, "b", 4⟩] = "AND b" := by decide
  refine ⟨⟨[⟨.text, "AND", 0⟩, ⟨.text, "b", 4⟩], 5⟩, ⟨[⟨.and, "AND", 0⟩, ⟨.text, "b", 4⟩], 5⟩, rfl,
    ?_, rfl, rfl⟩
  rw [spaced]
  rfl

end Rereading

end FilterQuery
