import FilterQuery.Proofs.Token.Words

/-!
# What the lexical classes describe

`Pattern.Matches` says which sequences a pattern describes, whatever the order in which its parts
are tried. What a pattern takes from a text is described by it.

The converse needs more: a pattern tries only one way, and a delimited class refuses what it takes
unless the word ends there. For strings and numbers the one way is the right one. Such a class has a
token at the head of a text exactly if some head of the text is described by its pattern and may end
there.
-/

namespace FilterQuery

open Pattern LexicalClass

namespace Pattern

section Soundness

/-- What is split off piece by piece is described by the repetition of the pattern. -/
theorem matches_splitRepeated {inner : Pattern}
    (sound : ∀ {text head rest}, inner.split? text = some (head, rest) → inner.Matches head)
    (limit : Nat) (text : List Char) :
    (many inner).Matches (splitRepeated inner.split? limit text).1 := by
  induction limit generalizing text with
  | zero => exact .done
  | succ limit inductionHypothesis =>
    obtain ⟨c, head, rest, found⟩ | missing := piece_or_no_piece inner.split? text
    · rw [splitRepeated_of_piece found]
      exact .more (sound found) (inductionHypothesis rest)
    · rw [splitRepeated_of_no_piece missing]
      exact .done

/-- What a pattern takes is described by it. -/
theorem matches_of_split? {pattern : Pattern} {text head rest : List Char}
    (found : pattern.split? text = some (head, rest)) : pattern.Matches head := by
  induction pattern generalizing text head rest with
  | empty =>
    obtain ⟨rfl, -⟩ : [] = head ∧ text = rest := by simpa [split?] using found
    exact .empty
  | char allowed =>
    cases text with
    | nil => cases found
    | cons c tail =>
      obtain ⟨permitted, rfl, -⟩ : allowed c = true ∧ [c] = head ∧ tail = rest := by
        simpa [split?] using found
      exact .char permitted
  | seq first second firstSound secondSound =>
    obtain ⟨left, middle, right, leftFound, rightFound, rfl⟩ := split?_seq_eq_some_iff.mp found
    exact .seq (firstSound leftFound) (secondSound rightFound)
  | choice first second firstSound secondSound =>
    rcases split?_choice found with taken | taken
    · exact .left (firstSound taken)
    · exact .right (secondSound taken)
  | many inner innerSound =>
    have described := matches_splitRepeated innerSound text.length text
    rw [split?, Option.some.injEq] at found
    rwa [found] at described

end Soundness

section Shapes

variable {text : List Char}

theorem matches_seq_iff {first second : Pattern} :
    (seq first second).Matches text ↔
      ∃ left right, text = left ++ right ∧ first.Matches left ∧ second.Matches right := by
  constructor
  · intro described
    cases described with
    | seq left right => exact ⟨_, _, rfl, left, right⟩
  · rintro ⟨left, right, rfl, leftDescribed, rightDescribed⟩
    exact .seq leftDescribed rightDescribed

theorem matches_choice_iff {first second : Pattern} :
    (choice first second).Matches text ↔ first.Matches text ∨ second.Matches text := by
  constructor
  · intro described
    cases described with
    | left described => exact .inl described
    | right described => exact .inr described
  · rintro (described | described)
    · exact .left described
    · exact .right described

theorem matches_empty_iff : Pattern.empty.Matches text ↔ text = [] := by
  constructor
  · intro described
    cases described
    rfl
  · rintro rfl
    exact .empty

theorem matches_char_iff {allowed : Char → Bool} :
    (char allowed).Matches text ↔ ∃ c, text = [c] ∧ allowed c = true := by
  constructor
  · intro described
    cases described with
    | char permitted => exact ⟨_, rfl, permitted⟩
  · rintro ⟨c, rfl, permitted⟩
    exact .char permitted

theorem matches_is_iff {c : Char} : (is c).Matches text ↔ text = [c] := by
  simp [is, matches_char_iff]

/-- A repetition describes what falls into pieces that the pattern describes. -/
theorem exists_pieces_of_matches {inner : Pattern} (described : (many inner).Matches text) :
    ∃ pieces : List (List Char), text = pieces.flatten ∧ ∀ piece ∈ pieces, inner.Matches piece := by
  generalize repetition : many inner = pattern at described
  induction described with
  | done => exact ⟨[], rfl, List.forall_mem_nil _⟩
  | more first _ _ inductionHypothesis =>
    cases repetition
    obtain ⟨pieces, rfl, each⟩ := inductionHypothesis rfl
    exact ⟨_ :: pieces, rfl, List.forall_mem_cons.mpr ⟨first, each⟩⟩
  | empty | char _ | seq _ _ | left _ | right _ => cases repetition

theorem matches_number_iff :
    number.Matches text ↔ text ≠ [] ∧ ∀ c ∈ text, c.isDigit = true := by
  constructor
  · intro described
    obtain ⟨_, digits, rfl, first, others⟩ := matches_seq_iff.mp described
    obtain ⟨c, rfl, isDigit⟩ := matches_char_iff.mp first
    obtain ⟨pieces, rfl, each⟩ := exists_pieces_of_matches others
    refine ⟨List.cons_ne_nil _ _, List.forall_mem_cons.mpr ⟨isDigit, fun d listed => ?_⟩⟩
    obtain ⟨piece, pieceListed, member⟩ := List.mem_flatten.mp listed
    obtain ⟨e, rfl, digit⟩ := matches_char_iff.mp (each piece pieceListed)
    rwa [List.mem_singleton.mp member]
  · rintro ⟨nonempty, areDigits⟩
    exact matches_of_split? (number_split?_eq_some_iff.mpr
      ⟨(List.append_nil text).symm, nonempty, areDigits, rfl⟩)

theorem matches_digits_iff {count : Nat} :
    (digits count).Matches text ↔ text.length = count ∧ ∀ c ∈ text, c.isDigit = true := by
  induction count generalizing text with
  | zero =>
    rw [show digits 0 = Pattern.empty from rfl, matches_empty_iff]
    constructor
    · rintro rfl
      exact ⟨rfl, List.forall_mem_nil _⟩
    · rintro ⟨nothing, -⟩
      exact List.length_eq_zero_iff.mp nothing
  | succ count inductionHypothesis =>
    rw [show digits (count + 1) = seq digit (digits count) from rfl, matches_seq_iff]
    constructor
    · rintro ⟨_, rest, rfl, first, others⟩
      obtain ⟨c, rfl, isDigit⟩ := matches_char_iff.mp first
      obtain ⟨length, each⟩ := inductionHypothesis.mp others
      exact ⟨by simp [length], List.forall_mem_cons.mpr ⟨isDigit, each⟩⟩
    · rintro ⟨length, each⟩
      obtain ⟨c, rest, rfl⟩ := List.exists_cons_of_length_eq_add_one length
      obtain ⟨isDigit, others⟩ := List.forall_mem_cons.mp each
      exact ⟨[c], rest, rfl, .char isDigit, inductionHypothesis.mpr ⟨by simpa using length, others⟩⟩

theorem matches_word_iff {characters : String} :
    (word characters).Matches text ↔ text = characters.toList := by
  rw [word]
  induction characters.toList generalizing text with
  | nil => exact matches_empty_iff
  | cons c rest inductionHypothesis =>
    rw [List.foldr_cons, matches_seq_iff]
    constructor
    · rintro ⟨_, _, rfl, first, others⟩
      rw [matches_is_iff.mp first, inductionHypothesis.mp others]
      rfl
    · rintro rfl
      exact ⟨[c], rest, rfl, matches_is_iff.mpr rfl, inductionHypothesis.mpr rfl⟩

/-- A pattern describes no text with a character that it rejects. -/
theorem not_mem_of_rejects {pattern : Pattern} {c : Char} (rejected : pattern.rejects c = true)
    (described : pattern.Matches text) : c ∉ text := by
  induction described with
  | empty | done => exact List.not_mem_nil
  | char permitted =>
    intro listed
    rw [List.mem_singleton] at listed
    rw [rejects, listed, permitted] at rejected
    cases rejected
  | seq _ _ firstRejects secondRejects =>
    rw [rejects, Bool.and_eq_true] at rejected
    exact List.not_mem_append (firstRejects rejected.1) (secondRejects rejected.2)
  | left _ firstRejects =>
    rw [rejects, Bool.and_eq_true] at rejected
    exact firstRejects rejected.1
  | right _ secondRejects =>
    rw [rejects, Bool.and_eq_true] at rejected
    exact secondRejects rejected.2
  | more _ _ headRejects tailRejects =>
    exact List.not_mem_append (headRejects rejected) (tailRejects rejected)

end Shapes

end Pattern

/-- Some head of a text is described by the pattern of a class. If the class is delimited, the word
ends behind it. -/
def LexicalClass.Starts (lexicalClass : LexicalClass) (text : List Char) : Prop :=
  ∃ head rest, text = head ++ rest ∧ lexicalClass.pattern.Matches head ∧
    (lexicalClass.delimited = true → endsWord rest = true)

/-- Where a class has a token, it starts the text. -/
theorem LexicalClass.starts_of_lexeme? {lexicalClass : LexicalClass} {text lexeme : List Char}
    (read : lexicalClass.lexeme? text = some lexeme) : lexicalClass.Starts text := by
  obtain ⟨rest, taken, ends⟩ := lexeme?_eq_some_iff.mp read
  exact ⟨lexeme, rest, (split?_append taken).symm, matches_of_split? taken, ends⟩

/-- A class that starts no head of a text has no token there. -/
theorem LexicalClass.lexeme?_eq_none_of_not_starts {lexicalClass : LexicalClass} {text : List Char}
    (notStarts : ¬ lexicalClass.Starts text) : lexicalClass.lexeme? text = none :=
  Option.eq_none_iff_forall_ne_some.mpr fun _ read => notStarts (starts_of_lexeme? read)

section Strings

/-- A piece of a string is taken as such, whatever follows it. -/
theorem stringPiece_split?_of_matches {piece : List Char} (described : stringPiece.Matches piece)
    (rest : List Char) :
    piece ≠ [] ∧ stringPiece.split? (piece ++ rest) = some (piece, rest) := by
  rcases matches_choice_iff.mp described with plain | escape
  · obtain ⟨c, rfl, permitted⟩ := matches_char_iff.mp plain
    obtain ⟨noMark, noEscape⟩ : c ≠ '"' ∧ c ≠ '\\' := by simpa using permitted
    exact ⟨List.cons_ne_nil _ _, stringPiece_plain noMark noEscape rest⟩
  · obtain ⟨_, _, rfl, backslash, character⟩ := matches_seq_iff.mp escape
    obtain rfl := matches_is_iff.mp backslash
    obtain ⟨c, rfl, permitted⟩ := matches_char_iff.mp character
    have noLineFeed : c ≠ '\n' := by simpa using permitted
    exact ⟨List.cons_ne_nil _ _, by simp [stringPiece_escape, noLineFeed]⟩

/-- The pieces of a string are split off up to the mark that closes it. -/
theorem splitRepeated_stringPiece {pieces : List (List Char)}
    (each : ∀ piece ∈ pieces, stringPiece.Matches piece) (rest : List Char) {limit : Nat}
    (enough : pieces.flatten.length ≤ limit) :
    splitRepeated stringPiece.split? limit (pieces.flatten ++ '"' :: rest) =
      (pieces.flatten, '"' :: rest) := by
  induction pieces generalizing limit with
  | nil =>
    refine splitRepeated_of_no_piece ?_ limit
    intro c head last taken
    cases taken
  | cons piece pieces inductionHypothesis =>
    obtain ⟨described, others⟩ := List.forall_mem_cons.mp each
    obtain ⟨nonempty, taken⟩ :=
      stringPiece_split?_of_matches described (pieces.flatten ++ '"' :: rest)
    obtain ⟨c, tail, rfl⟩ := List.exists_cons_of_ne_nil nonempty
    rw [List.flatten_cons, List.length_append, List.length_cons] at enough
    obtain ⟨limit, rfl⟩ : ∃ smaller, limit = smaller + 1 := ⟨limit - 1, by omega⟩
    rw [List.flatten_cons, List.append_assoc, splitRepeated_of_piece taken,
      inductionHypothesis others (by omega)]

/-- A string is read wherever one starts. -/
theorem string_lexeme?_of_starts {text : List Char} (starts : stringClass.Starts text) :
    ∃ lexeme, stringClass.lexeme? text = some lexeme := by
  obtain ⟨_, rest, rfl, described, -⟩ := starts
  obtain ⟨_, _, rfl, opening, further⟩ := matches_seq_iff.mp described
  obtain ⟨_, _, rfl, repetition, closing⟩ := matches_seq_iff.mp further
  obtain ⟨_, _, rfl, mark, nothing⟩ := matches_seq_iff.mp closing
  obtain rfl := matches_is_iff.mp opening
  obtain rfl := matches_is_iff.mp mark
  obtain rfl := matches_empty_iff.mp nothing
  obtain ⟨pieces, rfl, each⟩ := exists_pieces_of_matches repetition
  have inside := splitRepeated_stringPiece each rest
    (show pieces.flatten.length ≤ (pieces.flatten ++ '"' :: rest).length by simp)
  have taken := stringPattern_split?_iff.mpr ⟨_, _, rfl, inside, rfl⟩
  have shape : ['"'] ++ (pieces.flatten ++ (['"'] ++ [])) ++ rest =
      '"' :: (pieces.flatten ++ '"' :: rest) := by simp
  rw [shape]
  exact ⟨_, lexeme?_eq_some_iff.mpr ⟨rest, taken, fun delimited => by cases delimited⟩⟩

end Strings

section Numbers

variable {sign digits behind : List Char}

/-- Digits do not go on where a word ends. -/
theorem startsWithDigit_of_endsWord {text : List Char} (ends : endsWord text = true) :
    startsWithDigit text = false := by
  have delimiters : ∀ c ∈ " \t\r\n()=<>!:.,".toList, c.isDigit = false :=
    List.all_iff_forall_prop.mp (by decide)
  cases text with
  | nil => rfl
  | cons c rest => exact delimiters c (List.contains_iff_mem.mp ends)

/-- An optional character is taken as such before one that the pattern refuses. -/
theorem optionally_char_split? {allowed : Char → Bool} {taken : List Char}
    (described : (optionally (char allowed)).Matches taken) {c : Char}
    (refused : allowed c = false) (rest : List Char) :
    (optionally (char allowed)).split? (taken ++ c :: rest) = some (taken, c :: rest) := by
  rcases matches_choice_iff.mp described with present | absent
  · obtain ⟨d, rfl, permitted⟩ := matches_char_iff.mp present
    simp [optionally, split?, permitted]
  · obtain rfl := matches_empty_iff.mp absent
    simp [optionally, split?, refused]

/-- An optional character that is no digit and the digits behind it are taken in turn where no
further digit follows. -/
theorem signed_split? {allowed : Char → Bool}
    (noDigits : (asciiDigits.all fun c => !allowed c) = true)
    (isSign : (optionally (char allowed)).Matches sign) (areDigits : number.Matches digits)
    (noDigit : startsWithDigit behind = false) :
    (optionally (char allowed)).split? (sign ++ (digits ++ behind)) =
      some (sign, digits ++ behind) ∧ number.split? (digits ++ behind) = some (digits, behind) := by
  obtain ⟨nonempty, each⟩ := matches_number_iff.mp areDigits
  have digitsFound : number.split? (digits ++ behind) = some (digits, behind) :=
    number_split?_eq_some_iff.mpr ⟨rfl, nonempty, each, noDigit⟩
  obtain ⟨c, rest, rfl⟩ := List.exists_cons_of_ne_nil nonempty
  have refused : allowed c = false := by
    simpa using List.all_eq_true.mp noDigits c (mem_asciiDigits (each c List.mem_cons_self))
  exact ⟨optionally_char_split? isSign refused (rest ++ behind), digitsFound⟩

/-- A whole number is read wherever one starts and ends. -/
theorem integer_lexeme?_of_starts {text : List Char} (starts : integerClass.Starts text) :
    ∃ lexeme, integerClass.lexeme? text = some lexeme := by
  obtain ⟨_, rest, rfl, described, ends⟩ := starts
  obtain ⟨sign, digits, rfl, isSign, areDigits⟩ := matches_seq_iff.mp described
  obtain ⟨signFound, digitsFound⟩ :=
    signed_split? rfl isSign areDigits (startsWithDigit_of_endsWord (ends rfl))
  rw [List.append_assoc]
  exact ⟨_, lexeme?_eq_some_iff.mpr
    ⟨rest, split?_seq_eq_some_iff.mpr ⟨sign, _, digits, signFound, digitsFound, rfl⟩, ends⟩⟩

/-- A fraction is taken as such where no digit follows it. -/
theorem fractionPattern_split?_of_matches {fraction : List Char}
    (described : fractionPattern.Matches fraction) {c : Char} (noDot : c ≠ '.')
    (noDigit : c.isDigit = false) (rest : List Char) :
    fractionPattern.split? (fraction ++ c :: rest) = some (fraction, c :: rest) ∧
      startsWithDigit (fraction ++ c :: rest) = false := by
  rcases matches_choice_iff.mp described with present | absent
  · obtain ⟨_, _, rfl, dot, further⟩ := matches_seq_iff.mp present
    obtain ⟨digits, _, rfl, areDigits, nothing⟩ := matches_seq_iff.mp further
    obtain rfl := matches_is_iff.mp dot
    obtain rfl := matches_empty_iff.mp nothing
    obtain ⟨nonempty, each⟩ := matches_number_iff.mp areDigits
    have numbered : number.split? (digits ++ c :: rest) = some (digits, c :: rest) :=
      number_split?_eq_some_iff.mpr ⟨rfl, nonempty, each, noDigit⟩
    exact ⟨by simpa using fractionPattern_dot_of_number numbered, rfl⟩
  · obtain rfl := matches_empty_iff.mp absent
    exact ⟨fractionPattern_of_ne noDot rest, noDigit⟩

/-- A duration is read wherever one starts and ends. -/
theorem duration_lexeme?_of_starts {text : List Char} (starts : durationClass.Starts text) :
    ∃ lexeme, durationClass.lexeme? text = some lexeme := by
  obtain ⟨_, rest, rfl, described, ends⟩ := starts
  obtain ⟨sign, _, rfl, isSign, unsigned⟩ := matches_seq_iff.mp described
  obtain ⟨digits, _, rfl, areDigits, behind⟩ := matches_seq_iff.mp unsigned
  obtain ⟨fraction, _, rfl, isFraction, unit⟩ := matches_seq_iff.mp behind
  obtain ⟨_, _, rfl, isUnit, nothing⟩ := matches_seq_iff.mp unit
  obtain rfl := matches_is_iff.mp isUnit
  obtain rfl := matches_empty_iff.mp nothing
  obtain ⟨fractionFound, noDigit⟩ :=
    fractionPattern_split?_of_matches isFraction (show 's' ≠ '.' by decide) rfl rest
  obtain ⟨signFound, digitsFound⟩ := signed_split? rfl isSign areDigits noDigit
  have taken := durationPattern_split?_iff.mpr
    ⟨sign, digits, fraction, _, _, signFound, digitsFound, fractionFound, rfl⟩
  have shape : sign ++ (digits ++ (fraction ++ (['s'] ++ []))) ++ rest =
      sign ++ (digits ++ (fraction ++ 's' :: rest)) := by simp
  rw [shape]
  exact ⟨_, lexeme?_eq_some_iff.mpr ⟨rest, taken, ends⟩⟩

/-- An exponent is taken as such where the word ends behind it. -/
theorem exponentPattern_split?_of_matches {exponent rest : List Char}
    (described : exponentPattern.Matches exponent) (ends : endsWord rest = true) :
    exponentPattern.split? (exponent ++ rest) = some (exponent, rest) ∧
      startsWithDigit (exponent ++ rest) = false := by
  have letters : ∀ c ∈ "eE".toList, c.isDigit = false := List.all_iff_forall_prop.mp (by decide)
  obtain ⟨_, _, rfl, letter, further⟩ := matches_seq_iff.mp described
  obtain ⟨sign, _, rfl, isSign, last⟩ := matches_seq_iff.mp further
  obtain ⟨digits, _, rfl, areDigits, nothing⟩ := matches_seq_iff.mp last
  obtain ⟨c, rfl, permitted⟩ := matches_char_iff.mp letter
  obtain rfl := matches_empty_iff.mp nothing
  obtain ⟨signFound, digitsFound⟩ :=
    signed_split? rfl isSign areDigits (startsWithDigit_of_endsWord ends)
  have letterFound : (oneOf "eE").split? (c :: (sign ++ (digits ++ rest))) =
      some ([c], sign ++ (digits ++ rest)) := by
    simp only [oneOf, split?, permitted, if_true]
  have digitsWhole : (all [number]).split? (digits ++ rest) = some (digits, rest) :=
    (split?_all_singleton _ _).trans digitsFound
  have taken : exponentPattern.split? (c :: (sign ++ (digits ++ rest))) =
      some ([c] ++ (sign ++ digits), rest) :=
    split?_seq_eq_some_iff.mpr ⟨[c], _, _, letterFound,
      split?_seq_eq_some_iff.mpr ⟨sign, _, digits, signFound, digitsWhole, rfl⟩, rfl⟩
  refine ⟨by simpa using taken, ?_⟩
  exact letters c (List.contains_iff_mem.mp permitted)

/-- What follows the digits of a floating-point number, and the end of the word behind it. -/
theorem floatTail_of_matches {tail rest : List Char} (ends : endsWord rest = true)
    (described : (all [is '.', number, optionally exponentPattern]).Matches tail ∨
      exponentPattern.Matches tail) :
    FloatTail (tail ++ rest) rest ∧ startsWithDigit (tail ++ rest) = false := by
  rcases described with fraction | exponent
  · obtain ⟨_, _, rfl, dot, further⟩ := matches_seq_iff.mp fraction
    obtain ⟨digits, _, rfl, areDigits, last⟩ := matches_seq_iff.mp further
    obtain ⟨exponent, _, rfl, isExponent, nothing⟩ := matches_seq_iff.mp last
    obtain rfl := matches_is_iff.mp dot
    obtain rfl := matches_empty_iff.mp nothing
    obtain ⟨nonempty, each⟩ := matches_number_iff.mp areDigits
    -- With or without an exponent, no digit follows the digits of the fraction.
    have behind : (optionally exponentPattern).split? (exponent ++ rest) = some (exponent, rest) ∧
        startsWithDigit (exponent ++ rest) = false := by
      rcases matches_choice_iff.mp isExponent with present | absent
      · obtain ⟨taken, noDigit⟩ := exponentPattern_split?_of_matches present ends
        exact ⟨split?_optionally_of_some taken, noDigit⟩
      · obtain rfl := matches_empty_iff.mp absent
        exact ⟨exponentPattern_split?_of_endsWord ends, startsWithDigit_of_endsWord ends⟩
    have numbered : number.split? (digits ++ (exponent ++ rest)) =
        some (digits, exponent ++ rest) :=
      number_split?_eq_some_iff.mpr ⟨rfl, nonempty, each, behind.2⟩
    exact ⟨by simpa using FloatTail.fraction numbered behind.1, rfl⟩
  · obtain ⟨taken, noDigit⟩ := exponentPattern_split?_of_matches exponent ends
    exact ⟨.exponent taken, noDigit⟩

/-- A floating-point number is read wherever one starts and ends. -/
theorem float_lexeme?_of_starts {text : List Char} (starts : floatClass.Starts text) :
    ∃ lexeme, floatClass.lexeme? text = some lexeme := by
  obtain ⟨_, rest, rfl, described, ends⟩ := starts
  obtain ⟨sign, _, rfl, isSign, unsigned⟩ := matches_seq_iff.mp described
  -- Either way, digits come first.
  obtain ⟨digits, tail, rfl, areDigits, isTail⟩ : ∃ digits tail, _ = digits ++ tail ∧
      number.Matches digits ∧ (Pattern.Matches _ tail ∨ exponentPattern.Matches tail) := by
    rcases matches_choice_iff.mp unsigned with fraction | exponent
    · obtain ⟨digits, tail, same, areDigits, isTail⟩ := matches_seq_iff.mp fraction
      exact ⟨digits, tail, same, areDigits, .inl isTail⟩
    · obtain ⟨digits, tail, same, areDigits, isTail⟩ := matches_seq_iff.mp exponent
      exact ⟨digits, tail, same, areDigits, .inr isTail⟩
  obtain ⟨floatTail, noDigit⟩ := floatTail_of_matches (ends rfl) isTail
  obtain ⟨signFound, digitsFound⟩ := signed_split? rfl isSign areDigits noDigit
  obtain ⟨lexeme, taken⟩ := floatPattern_split?_iff.mpr
    ⟨sign, _, digits, _, signFound, digitsFound, floatTail⟩
  rw [List.append_assoc, List.append_assoc]
  exact ⟨lexeme, lexeme?_eq_some_iff.mpr ⟨rest, taken, ends⟩⟩

/-- A number is read wherever one starts and ends. -/
theorem number_lexeme?_of_starts {lexicalClass : LexicalClass}
    (listed : lexicalClass ∈ numberClasses) {text : List Char} (starts : lexicalClass.Starts text) :
    ∃ lexeme, lexicalClass.lexeme? text = some lexeme := by
  simp only [numberClasses, List.mem_cons, List.not_mem_nil, or_false] at listed
  rcases listed with rfl | rfl | rfl
  · exact duration_lexeme?_of_starts starts
  · exact float_lexeme?_of_starts starts
  · exact integer_lexeme?_of_starts starts

end Numbers

end FilterQuery
