import FilterQuery.Document.Typed
import FilterQuery.Proofs.Compile.Distribution
import FilterQuery.Proofs.Document.Coercion
import FilterQuery.Proofs.Document.Walks
import FilterQuery.Proofs.Number.Overflow
import FilterQuery.Proofs.Token.Respacing
import FilterQuery.Proofs.Tree.Comparisons
import FilterQuery.Proofs.Value.Literals

/-!
# Identifiers without quotation marks

The twenty-four digits of an object identifier need no quotation marks, unless they are read as a
number that is too large: `objectIds_may_be_bare`.

Where its letters fall decides whether an identifier is a whole number, a number with an exponent or
a text. Numbers keep the text they were written as, so the identifier is read from that text in all
three cases, once the number is in range.
-/

namespace FilterQuery

open Pattern LexicalClass

/-- The digits of lower-case hexadecimal. -/
def hexCharacters : List Char := "0123456789abcdef".toList

/-- Twenty-four lower-case hexadecimal digits. -/
structure ObjectId.Spelling where
  digits : String
  length : digits.toList.length = 24
  areHex : ∀ c ∈ digits.toList, c ∈ hexCharacters

section Reading

/-- Every digit is one byte, which has the digit's value. -/
theorem exists_hexValue? {c : Char} (hex : c ∈ hexCharacters) :
    ∃ byte n, String.utf8EncodeChar c = [byte] ∧ Text.hexValue? byte = some n ∧ n < 16 ∧
      Text.hexDigit n = c := by
  have characters : ∀ c ∈ hexCharacters, String.utf8EncodeChar c = [UInt8.ofNat c.toNat] ∧
      ∃ n ∈ List.range 16, Text.hexValue? (UInt8.ofNat c.toNat) = some n ∧
        Text.hexDigit n = c := List.all_iff_forall_prop.mp (by decide)
  obtain ⟨encoded, n, small, value, digit⟩ := characters c hex
  exact ⟨_, n, encoded, value, List.mem_range.mp small, digit⟩

/-- Two digits are written for a byte. -/
theorem hexDigits_two {upper lower : Nat} (upperFits : upper < 16) (lowerFits : lower < 16) :
    Text.hexDigits 2 (UInt8.ofNat (upper * 16 + lower)).toNat =
      [Text.hexDigit upper, Text.hexDigit lower] := by
  have fits : (UInt8.ofNat (upper * 16 + lower)).toNat = upper * 16 + lower := by
    rw [UInt8.toNat_ofNat']
    omega
  have high : (upper * 16 + lower) / 16 % 16 = upper := by omega
  have low : (upper * 16 + lower) % 16 = lower := by omega
  rw [fits]
  simp [Text.hexDigits, high, low]

/-- Pairs of digits are read as the bytes that they are written for. -/
theorem exists_readHex?_of_hex : ∀ digits : List Char, digits.length % 2 = 0 →
    (∀ c ∈ digits, c ∈ hexCharacters) →
    ∃ bytes, Text.readHex? (digits.flatMap String.utf8EncodeChar) = some bytes ∧
      bytes.flatMap (fun byte => Text.hexDigits 2 byte.toNat) = digits
  | [], _, _ => ⟨[], rfl, rfl⟩
  | [_], odd, _ => by cases odd
  | high :: low :: rest, even, areHex => by
    obtain ⟨highHex, lowHex, others⟩ : high ∈ hexCharacters ∧ low ∈ hexCharacters ∧
        ∀ c ∈ rest, c ∈ hexCharacters := by simpa using areHex
    obtain ⟨highByte, upper, highEncoded, isUpper, upperFits, rfl⟩ := exists_hexValue? highHex
    obtain ⟨lowByte, lower, lowEncoded, isLower, lowerFits, rfl⟩ := exists_hexValue? lowHex
    have evenRest : rest.length % 2 = 0 := by
      simp only [List.length_cons] at even
      omega
    obtain ⟨bytes, read, written⟩ := exists_readHex?_of_hex rest evenRest others
    refine ⟨UInt8.ofNat (upper * 16 + lower) :: bytes, ?_, ?_⟩
    · simp [highEncoded, lowEncoded, Text.readHex?, isUpper, isLower, read]
    · rw [List.flatMap_cons, hexDigits_two upperFits lowerFits, written]
      rfl

theorem length_utf8Bytes_of_hex {digits : List Char} (areHex : ∀ c ∈ digits, c ∈ hexCharacters) :
    (digits.flatMap String.utf8EncodeChar).length = digits.length := by
  induction digits with
  | nil => rfl
  | cons c rest inductionHypothesis =>
    obtain ⟨hex, others⟩ := List.forall_mem_cons.mp areHex
    obtain ⟨byte, -, encoded, -⟩ := exists_hexValue? hex
    simp [encoded, inductionHypothesis others]

/-- Twenty-four digits are read as the identifier that is written so. -/
theorem ObjectId.Spelling.exists_read (spelling : Spelling) :
    ∃ id, ObjectId.read spelling.digits = .ok id ∧ ObjectId.text id = spelling.digits := by
  obtain ⟨id, read, written⟩ := exists_readHex?_of_hex spelling.digits.toList
    (by rw [spelling.length]) spelling.areHex
  have count : (Text.utf8Bytes spelling.digits).length = 24 := by
    rw [Text.utf8Bytes, length_utf8Bytes_of_hex spelling.areHex, spelling.length]
  have valid : (Text.utf8Bytes spelling.digits).find?
      (fun byte => (Text.hexValue? byte).isNone) = none := by
    refine List.find?_eq_none.mpr fun byte listed => ?_
    obtain ⟨c, member, encodes⟩ := List.mem_flatMap.mp listed
    obtain ⟨only, n, encoded, value, -⟩ := exists_hexValue? (spelling.areHex c member)
    obtain rfl : byte = only := by simpa [encoded] using encodes
    simp [value]
  refine ⟨id, ?_, ?_⟩
  · rw [ObjectId.read]
    simp only [count, ne_eq, not_true_eq_false, if_false, valid]
    rw [Text.utf8Bytes, read]
    rfl
  · rw [ObjectId.text, Text.hexBytes, written, String.ofList_toList]

end Reading

section Words

theorem eq_nil_of_optionally_char {allowed : Char → Bool} {taken : List Char}
    (described : (optionally (char allowed)).Matches taken)
    (refused : ∀ c ∈ taken, allowed c = false) : taken = [] := by
  rcases matches_choice_iff.mp described with present | absent
  · obtain ⟨c, rfl, permitted⟩ := matches_char_iff.mp present
    cases permitted.symm.trans (refused c List.mem_cons_self)
  · exact matches_empty_iff.mp absent

/-- A number with neither sign nor point is digits with an exponent. -/
theorem ExponentNumeral.exists_of_float {text : List Char} (described : floatPattern.Matches text)
    (plain : ∀ c ∈ text, c ∉ "-+.E".toList) :
    ∃ numeral : ExponentNumeral, numeral.characters = text := by
  have unsigned {c : Char} (listed : c ∈ text) :
      (c == '-') = false ∧ "+-".toList.contains c = false := by
    have excluded := plain c listed
    simp_all
  obtain ⟨sign, _, rfl, isSign, magnitude⟩ := matches_seq_iff.mp described
  obtain rfl := eq_nil_of_optionally_char isSign fun c listed => (unsigned (by simp [listed])).1
  rcases matches_choice_iff.mp magnitude with pointed | scaled
  · obtain ⟨_, _, rfl, -, behind⟩ := matches_seq_iff.mp pointed
    obtain ⟨_, _, rfl, isPoint, -⟩ := matches_seq_iff.mp behind
    obtain rfl := matches_is_iff.mp isPoint
    exact absurd (by decide) (plain '.' (by simp))
  · obtain ⟨digits, _, rfl, areDigits, isExponent⟩ := matches_seq_iff.mp scaled
    obtain ⟨_, _, rfl, isMark, further⟩ := matches_seq_iff.mp isExponent
    obtain ⟨exponentSign, _, rfl, isExponentSign, last⟩ := matches_seq_iff.mp further
    obtain ⟨exponent, _, rfl, areExponent, nothing⟩ := matches_seq_iff.mp last
    obtain rfl := matches_empty_iff.mp nothing
    obtain ⟨mark, rfl, isE⟩ := matches_char_iff.mp isMark
    obtain rfl | rfl : mark = 'e' ∨ mark = 'E' := by simpa using isE
    · obtain rfl := eq_nil_of_optionally_char isExponentSign fun c listed =>
        (unsigned (by simp [listed])).2
      obtain ⟨nonempty, each⟩ := matches_number_iff.mp areDigits
      obtain ⟨exponentNonempty, eachOfExponent⟩ := matches_number_iff.mp areExponent
      exact ⟨⟨⟨digits, nonempty, each⟩, ⟨exponent, exponentNonempty, eachOfExponent⟩⟩,
        by simp [ExponentNumeral.characters]⟩
    · exact absurd (by decide) (plain 'E' (by simp))

namespace ObjectId.Spelling

variable (spelling : Spelling)

theorem not_mem {c : Char} (other : c ∉ hexCharacters) : c ∉ spelling.digits.toList :=
  fun listed => other (spelling.areHex c listed)

/-- The digits are a text, as far as no other class takes them first. -/
theorem textClass_lexeme? :
    textClass.lexeme? spelling.digits.toList = some spelling.digits.toList := by
  have nameParts : ∀ c ∈ hexCharacters, isNamePart c = true :=
    List.all_iff_forall_prop.mp (by decide)
  have parts : ∀ c ∈ spelling.digits.toList, isNamePart c = true := fun c listed =>
    nameParts c (spelling.areHex c listed)
  have noMinus : '-' ∉ spelling.digits.toList := spelling.not_mem (by decide)
  have count := spelling.length
  cases characters : spelling.digits.toList with
  | nil => simp [characters] at count
  | cons first rest =>
    rw [characters] at parts noMinus
    have start : first ≠ '-' := by
      rintro rfl
      exact noMinus List.mem_cons_self
    exact lexeme?_eq_some_iff.mpr ⟨[], textPattern_split?_of_name start parts, fun _ => rfl⟩

theorem not_matches_word {characters : String} (short : characters.toList.length ≠ 24) :
    ¬ (word characters).Matches spelling.digits.toList := by
  intro described
  rw [← matches_word_iff.mp described, spelling.length] at short
  exact short rfl

/-- A date has a hyphen. -/
theorem not_matches_datetime : ¬ datetimePattern.Matches spelling.digits.toList := by
  intro described
  obtain ⟨_, _, whole, -, behind⟩ := matches_seq_iff.mp described
  obtain ⟨_, _, rfl, isHyphen, -⟩ := matches_seq_iff.mp behind
  obtain rfl := matches_is_iff.mp isHyphen
  exact spelling.not_mem (c := '-') (by decide) (by simp [whole])

/-- A duration ends with its unit. -/
theorem not_matches_duration : ¬ durationPattern.Matches spelling.digits.toList := by
  intro described
  obtain ⟨_, _, whole, -, -⟩ := magnitude_of_duration described
  exact spelling.not_mem (c := 's') (by decide) (by simp [whole])

theorem exists_row_of_integer (described : integerPattern.Matches spelling.digits.toList) :
    ∃ row : DigitRow, row.characters = spelling.digits.toList := by
  obtain ⟨sign, digits, whole, isSign, areDigits⟩ := matches_seq_iff.mp described
  have noMinus : '-' ∉ sign ++ digits := whole ▸ spelling.not_mem (by decide)
  have unsigned : ∀ c ∈ sign, (c == '-') = false := by
    intro c listed
    refine beq_false_of_ne ?_
    rintro rfl
    exact noMinus (List.mem_append_left _ listed)
  obtain rfl := eq_nil_of_optionally_char isSign unsigned
  obtain ⟨nonempty, each⟩ := matches_number_iff.mp areDigits
  exact ⟨⟨digits, nonempty, each⟩, whole.symm⟩

theorem exists_numeral_of_float (described : floatPattern.Matches spelling.digits.toList) :
    ∃ numeral : ExponentNumeral, numeral.characters = spelling.digits.toList := by
  have plain : ∀ c ∈ hexCharacters, c ∉ "-+.E".toList :=
    List.all_iff_forall_prop.mp (by decide)
  exact ExponentNumeral.exists_of_float described fun c listed => plain c (spelling.areHex c listed)

/-- The digits are a whole number, a number with an exponent or a text. -/
theorem isWord_cases :
    (∃ row : DigitRow, row.characters = spelling.digits.toList) ∨
      (∃ numeral : ExponentNumeral, numeral.characters = spelling.digits.toList ∧
        IsWord true .float spelling.digits.toList) ∨
      IsWord true .text spelling.digits.toList := by
  obtain ⟨lexicalClass, listed, read, isKind, isWord⟩ :=
    exists_isWord_of_text spelling.textClass_lexeme?
  have described := matches_of_split? (split?_of_lexeme? read)
  simp only [table, List.mem_cons, List.not_mem_nil, or_false] at listed
  rcases listed with rfl | rfl | rfl | rfl | rfl | rfl | rfl | rfl | rfl | rfl | rfl | rfl | rfl |
    rfl | rfl
  -- Signs and quoted strings are neither texts nor delimited.
  iterate 5 rcases isKind with isText | isDelimited <;> contradiction
  -- Keywords are too short.
  iterate 3 exact absurd described (spelling.not_matches_word (by decide))
  · rcases matches_choice_iff.mp described with isTrue | isFalse
    · exact absurd isTrue (spelling.not_matches_word (by decide))
    · exact absurd isFalse (spelling.not_matches_word (by decide))
  · exact absurd described spelling.not_matches_datetime
  · exact absurd described spelling.not_matches_duration
  · obtain ⟨numeral, characters⟩ := spelling.exists_numeral_of_float described
    exact .inr (.inl ⟨numeral, characters, isWord true⟩)
  · exact .inl (spelling.exists_row_of_integer described)
  · have asterisk := matches_is_iff.mp described
    exact absurd (by simp [asterisk]) (spelling.not_mem (c := '*') (by decide))
  · exact .inr (.inr (isWord true))

theorem isWord_of_row {row : DigitRow} (characters : row.characters = spelling.digits.toList) :
    IsWord true .integer spelling.digits.toList := by
  rw [← characters]
  exact @isWord_integer [] row.characters true (.inl rfl) row.nonempty row.areDigits

/-- Digits with an exponent are not taken for a text. -/
theorem isWord_of_numeral {numeral : ExponentNumeral}
    (characters : numeral.characters = spelling.digits.toList) :
    IsWord true .float spelling.digits.toList := by
  rcases spelling.isWord_cases with ⟨row, sameCharacters⟩ | ⟨-, -, isWord⟩ | isText
  · have listed : 'e' ∈ row.characters := by
      rw [sameCharacters, ← characters]
      simp [ExponentNumeral.characters]
    cases row.areDigits 'e' listed
  · exact isWord
  · have starts : floatClass.Starts spelling.digits.toList :=
      ⟨numeral.characters, [], by simp [characters], numeral.floatPattern_matches, fun _ => rfl⟩
    have missing : floatClass.lexeme? spelling.digits.toList = none :=
      lexeme?_eq_none_of_text isText (by simp [table, floatClass]) TokenKind.noConfusion
    obtain ⟨lexeme, read⟩ := float_lexeme?_of_starts starts
    cases missing.symm.trans read

end ObjectId.Spelling

end Words

section Values

/-- A value from which a backend reads a given text, without searching for it. -/
structure Value.Conveys (value : Value) (text : String) : Prop where
  textOrRaw : value.textOrRaw = text
  wildcardForm : value.wildcardForm = .plain

theorem Value.conveys_integer (text : String) (n : Int) :
    Value.Conveys ⟨text, Content.ofInteger n⟩ text := by
  unfold Content.ofInteger
  split
  · exact ⟨rfl, rfl⟩
  · exact ⟨rfl, rfl⟩

namespace ObjectId.Spelling

variable (spelling : Spelling)

/-- The digits are those of a whole number beyond sixty-four bits. -/
def IsLargeInteger : Prop :=
  ∃ row : DigitRow, row.characters = spelling.digits.toList ∧ 2 ^ 63 ≤ row.value

/-- The digits are those of a number, written with an exponent, that rounds to infinity. -/
def IsLargeFloat : Prop :=
  ∃ numeral : ExponentNumeral, numeral.characters = spelling.digits.toList ∧
    2 ^ 1024 - 2 ^ 970 ≤ numeral.value

theorem wildcardForm_eq_plain : WildcardForm.ofText spelling.digits = .plain := by
  have none : spelling.digits.toList.count '*' = 0 :=
    List.count_eq_zero.mpr (spelling.not_mem (by decide))
  simp [WildcardForm.ofText, none]

theorem conveys_text : Value.Conveys ⟨spelling.digits, .text spelling.digits⟩ spelling.digits :=
  ⟨rfl, spelling.wildcardForm_eq_plain⟩

theorem conveys_string (raw : String) :
    Value.Conveys ⟨raw, .string spelling.digits⟩ spelling.digits :=
  ⟨rfl, spelling.wildcardForm_eq_plain⟩

/-- The digits between quotation marks. -/
def quoted : String := "\"" ++ spelling.digits ++ "\""

theorem toList_quoted : spelling.quoted.toList = '"' :: (spelling.digits.toList ++ ['"']) := by
  simp [quoted]

theorem isWord_quoted : IsWord true .string spelling.quoted.toList := by
  have plain : ∀ c ∈ hexCharacters, isPlain c = true :=
    List.all_iff_forall_prop.mp (by decide)
  rw [toList_quoted]
  exact isWord_string (fun c listed => plain c (spelling.areHex c listed)) true

theorem resolve_quoted (position : Nat) :
    Literal.resolve ⟨.string, spelling.quoted, position⟩ =
      .ok ⟨spelling.quoted, .string spelling.digits⟩ := by
  have inner : stripQuotes spelling.quoted = spelling.digits := by
    rw [stripQuotes_of_quoted spelling.toList_quoted, String.ofList_toList]
  exact Literal.resolve_of_content (congrArg (Except.ok ∘ Content.string) inner)

theorem digits_eq_text {row : DigitRow} (characters : row.characters = spelling.digits.toList) :
    spelling.digits = Numeral.text ⟨false, row⟩ := by
  simp [Numeral.text, characters]

theorem digits_eq_characters {numeral : ExponentNumeral}
    (characters : numeral.characters = spelling.digits.toList) :
    spelling.digits = String.ofList numeral.characters := by
  rw [characters, String.ofList_toList]

/-- Where no number is too large, the bare digits are a literal that conveys them. -/
theorem exists_conveys (noInteger : ¬ spelling.IsLargeInteger) (noFloat : ¬ spelling.IsLargeFloat) :
    ∃ kind literalKind, (kind, literalKind) ∈ valueClasses ∧
      IsWord true kind spelling.digits.toList ∧ ∀ position, ∃ value,
        Literal.resolve ⟨literalKind, spelling.digits, position⟩ = .ok value ∧
          value.Conveys spelling.digits := by
  rcases spelling.isWord_cases with ⟨row, characters⟩ | ⟨numeral, characters, isWord⟩ | isText
  · refine ⟨.integer, .integer, by decide, spelling.isWord_of_row characters, fun position => ?_⟩
    have small : row.value < 2 ^ 63 :=
      Nat.not_le.mp fun large => noInteger ⟨row, characters, large⟩
    have fits : -2 ^ 63 ≤ Numeral.value ⟨false, row⟩ ∧ Numeral.value ⟨false, row⟩ < 2 ^ 63 := by
      simp only [Numeral.value, Bool.false_eq_true, if_false]
      omega
    have resolved := Numeral.resolve_text ⟨false, row⟩ position fits
    rw [← spelling.digits_eq_text characters] at resolved
    exact ⟨_, resolved, Value.conveys_integer _ _⟩
  · refine ⟨.float, .float, by decide, isWord, fun position => ?_⟩
    have small : numeral.value < BinaryFormat.double.overflow := by
      rw [BinaryFormat.double_overflow]
      exact Nat.not_le.mp fun large => noFloat ⟨numeral, characters, large⟩
    obtain ⟨x, read⟩ := numeral.exists_readFloat small
    rw [← spelling.digits_eq_characters characters] at read
    have content : LiteralKind.float.content spelling.digits = .ok (.float x) := by
      unfold LiteralKind.content
      rw [read]
    exact ⟨_, Literal.resolve_of_content content, rfl, rfl⟩
  · exact ⟨.text, .text, by decide, isText, fun position =>
      ⟨_, Literal.resolve_of_content rfl, spelling.conveys_text⟩⟩

theorem content_of_isLargeInteger (large : spelling.IsLargeInteger) :
    IsWord true .integer spelling.digits.toList ∧
      LiteralKind.integer.content spelling.digits =
        .error (.integer spelling.digits .outOfRange) := by
  obtain ⟨row, characters, atLeast⟩ := large
  have beyond : ¬ (-2 ^ 63 ≤ Numeral.value ⟨false, row⟩ ∧ Numeral.value ⟨false, row⟩ < 2 ^ 63) := by
    simp only [Numeral.value, Bool.false_eq_true, if_false]
    omega
  have content := Numeral.content_text ⟨false, row⟩
  rw [if_neg beyond, ← spelling.digits_eq_text characters] at content
  exact ⟨spelling.isWord_of_row characters, content⟩

theorem content_of_isLargeFloat (large : spelling.IsLargeFloat) :
    IsWord true .float spelling.digits.toList ∧
      LiteralKind.float.content spelling.digits =
        .error (.float spelling.digits .outOfRange) := by
  obtain ⟨numeral, characters, atLeast⟩ := large
  rw [← BinaryFormat.double_overflow] at atLeast
  have read := numeral.readFloat_eq_outOfRange_iff.mpr atLeast
  rw [← spelling.digits_eq_characters characters] at read
  refine ⟨spelling.isWord_of_numeral characters, ?_⟩
  unfold LiteralKind.content
  rw [read]

end ObjectId.Spelling

end Values

namespace Document

section Equalities

variable {index : FieldIndex} {field word : String} {kind : TokenKind} {literalKind : LiteralKind}
variable {member : Member} {type : FieldType} {events : List Event}

/-- A field that is set equal to a word is compared with the value of that word. -/
theorem compileText_equality (parsed : parse field = .ok [[[.mk false (.bare member)]]])
    (isValue : (kind, literalKind) ∈ valueClasses) (isWord : IsWord true kind word.toList) :
    ∃ position, compileText (typedBackend index) (field ++ "=" ++ word) =
      compareMember (typedBackend index) member.text .equal
        (.ofLiteral ⟨literalKind, word, position⟩) := by
  obtain ⟨position, comparison⟩ := parse_equality parsed isValue isWord
  refine ⟨position, ?_⟩
  unfold compileText
  rw [comparison]
  simp [compileTree_single, Term.compile, Simple.compile, Comparator.ofSign?]

/-- A field of identifiers is compared with the identifier that is read from a value. -/
theorem outcome_compareMember_objectId {literal : Literal} {value : Value} {text : String}
    {id : List UInt8} (resolved : literal.resolve = .ok value) (conveys : value.Conveys text)
    (read : ObjectId.read text = .ok id) (found : index.find? member.text = some type)
    (isObjectId : type.elementType = .objectId) :
    Build.outcome (compareMember (typedBackend index) member.text .equal (.ofLiteral literal))
      events = (.ok (single member.text (.objectId id)), events) := by
  have memberResolved : (Member.ofLiteral literal).resolve = .ok value := resolved
  have compared : (typedBackend index).relate .equal member.text value =
      (typedBackend index).compare .equal member.text value := by
    unfold Backend.relate
    rw [conveys.wildcardForm]
  have coerced : type.elementType.coerce value = .ok (.objectId id) := by
    rw [isObjectId, ElementType.coerce, conveys.textOrRaw, read]
    rfl
  have coercedField : Build.outcome (coerceField index member.text value) events =
      (.ok (.objectId id), events) := by
    unfold coerceField
    rw [found]
    simp only [coerced]
    rfl
  unfold compareMember
  rw [memberResolved]
  simp only [compared]
  rw [Build.outcome_adapt_eq_ok_iff]
  exact Build.outcome_bind_eq_ok_iff.mpr ⟨_, _, coercedField, rfl⟩

/-- A word that conveys the digits of an identifier is as good as the identifier. -/
theorem outcome_equality_objectId (parsed : parse field = .ok [[[.mk false (.bare member)]]])
    (isValue : (kind, literalKind) ∈ valueClasses) (isWord : IsWord true kind word.toList)
    {text : String} {id : List UInt8}
    (resolves : ∀ position, ∃ value, Literal.resolve ⟨literalKind, word, position⟩ = .ok value ∧
      value.Conveys text)
    (read : ObjectId.read text = .ok id) (found : index.find? member.text = some type)
    (isObjectId : type.elementType = .objectId) :
    Build.outcome (compileText (typedBackend index) (field ++ "=" ++ word)) events =
      (.ok (single member.text (.objectId id)), events) := by
  obtain ⟨position, same⟩ := @compileText_equality index _ _ _ _ _ parsed isValue isWord
  obtain ⟨value, resolved, conveys⟩ := resolves position
  rw [same]
  exact outcome_compareMember_objectId resolved conveys read found isObjectId

theorem outcome_equality_fault (parsed : parse field = .ok [[[.mk false (.bare member)]]])
    (isValue : (kind, literalKind) ∈ valueClasses) (isWord : IsWord true kind word.toList)
    {fault : LiteralFault} (failed : literalKind.content word = .error fault) :
    Build.outcome (compileText (typedBackend index) (field ++ "=" ++ word)) events =
      (.error (.literal member.text ⟨word, literalKind, fault⟩), events) := by
  obtain ⟨position, same⟩ := @compileText_equality index _ _ _ _ _ parsed isValue isWord
  have unresolved : (Member.ofLiteral ⟨literalKind, word, position⟩).resolve =
      .error ⟨word, literalKind, fault⟩ := Literal.resolve_of_fault failed
  rw [same]
  unfold compareMember
  rw [unresolved]
  rfl

end Equalities

/-- A field of identifiers that is set equal to twenty-four digits is compared with the identifier
that they spell, with quotation marks or without. Without them there is one exception: digits that
are a number out of range are an error. The digits are a number if none of them is a letter, or if
the only letter is an `e` between other digits. -/
theorem objectIds_may_be_bare {index : FieldIndex} {field : String} {member : Member}
    {type : FieldType} (parsed : parse field = .ok [[[.mk false (.bare member)]]])
    (found : index.find? member.text = some type) (isObjectId : type.elementType = .objectId)
    (spelling : ObjectId.Spelling) (events : List Event) :
    let compiled (argument : String) :=
      Build.outcome (compileText (typedBackend index) (field ++ "=" ++ argument)) events
    ∃ id, id.length = 12 ∧ ObjectId.text id = spelling.digits ∧
      compiled spelling.quoted = (.ok (single member.text (.objectId id)), events) ∧
      (¬ spelling.IsLargeInteger → ¬ spelling.IsLargeFloat →
        compiled spelling.digits = (.ok (single member.text (.objectId id)), events)) ∧
      (spelling.IsLargeInteger → compiled spelling.digits = (.error (.literal member.text
        ⟨spelling.digits, .integer, .integer spelling.digits .outOfRange⟩), events)) ∧
      (spelling.IsLargeFloat → compiled spelling.digits = (.error (.literal member.text
        ⟨spelling.digits, .float, .float spelling.digits .outOfRange⟩), events)) := by
  intro compiled
  obtain ⟨id, read, written⟩ := spelling.exists_read
  refine ⟨id, ObjectId.length_of_read read, written, ?_, ?_, ?_, ?_⟩
  · have resolves (position : Nat) : ∃ value,
        Literal.resolve ⟨.string, spelling.quoted, position⟩ = .ok value ∧
          value.Conveys spelling.digits :=
      ⟨_, spelling.resolve_quoted position, spelling.conveys_string _⟩
    exact outcome_equality_objectId parsed (by decide) spelling.isWord_quoted resolves read found
      isObjectId
  · intro noInteger noFloat
    obtain ⟨kind, literalKind, isValue, isWord, resolves⟩ :=
      spelling.exists_conveys noInteger noFloat
    exact outcome_equality_objectId parsed isValue isWord resolves read found isObjectId
  · intro large
    obtain ⟨isWord, failed⟩ := spelling.content_of_isLargeInteger large
    exact outcome_equality_fault parsed (by decide) isWord failed
  · intro large
    obtain ⟨isWord, failed⟩ := spelling.content_of_isLargeFloat large
    exact outcome_equality_fault parsed (by decide) isWord failed

/-- The friends of an owner, with digits that are the number five thousand. -/
theorem objectIds_may_be_bare_exponent :
    let ids : FieldType := .collection "[]primitive.ObjectID" (.element .objectId)
    let owner : FieldType := .pointer (.element (.struct "person"))
    let index : FieldIndex := [("owner", owner), ("owner.friends", ids)]
    FieldIndex.ofType
        ⟨[⟨"order", [⟨"Owner", true, some "owner", .pointer (.element (.struct "person"))⟩]⟩,
          ⟨"person", [⟨"Friends", true, some "friends",
            .collection "[]primitive.ObjectID" (.element .objectId)⟩]⟩], []⟩
        (.element (.struct "order")) = some (.ok index) ∧
    ∃ id, ObjectId.text id = "00000000000000000005e003" ∧
      Build.outcome (compileText (typedBackend index) "owner.friends=00000000000000000005e003") [] =
        (.ok (single "owner.friends" (.objectId id)), []) ∧
      Build.outcome
          (compileText (typedBackend index) "owner.friends=\"00000000000000000005e003\"") [] =
        (.ok (single "owner.friends" (.objectId id)), []) := by
  intro ids owner index
  let spelling : ObjectId.Spelling :=
    ⟨"00000000000000000005e003", by decide, List.all_iff_forall_prop.mp (by decide)⟩
  have parsed : parse "owner.friends" =
      .ok [[[.mk false (.bare ⟨⟨.text, "owner", 0⟩, [⟨.text, "friends", 6⟩]⟩)]]] := rfl
  have noInteger : ¬ spelling.IsLargeInteger := by
    rintro ⟨row, characters, -⟩
    have listed : 'e' ∈ row.characters := by
      rw [characters]
      decide +kernel
    cases row.areDigits 'e' listed
  have noFloat : ¬ spelling.IsLargeFloat := by
    let fiveThousand : ExponentNumeral :=
      ⟨⟨"00000000000000000005".toList, by decide, List.all_eq_true.mp rfl⟩,
        ⟨"003".toList, by decide, List.all_eq_true.mp rfl⟩⟩
    have value : fiveThousand.value = 5000 := by decide +kernel
    have small : fiveThousand.value < BinaryFormat.double.overflow := by
      rw [value]
      exact Nat.lt_of_lt_of_le (by decide) (Nat.le_mul_of_pos_right _ (Nat.two_pow_pos _))
    obtain ⟨x, read⟩ := fiveThousand.exists_readFloat small
    rintro ⟨numeral, characters, large⟩
    rw [← BinaryFormat.double_overflow] at large
    have outOfRange := numeral.readFloat_eq_outOfRange_iff.mpr large
    have same : fiveThousand.characters = spelling.digits.toList := by decide +kernel
    rw [characters, ← same, read] at outOfRange
    cases outOfRange
  have stored (type : DeclaredType) :
      Field.storage ⟨"Owner", true, some "owner", type⟩ = .named "owner" ∧
      Field.storage ⟨"Friends", true, some "friends", type⟩ = .named "friends" := ⟨rfl, rfl⟩
  obtain ⟨id, -, written, quoted, bare, -⟩ :=
    @objectIds_may_be_bare index _ _ ids parsed rfl rfl spelling []
  refine ⟨?_, id, written, bare noInteger noFloat, quoted⟩
  simp [FieldIndex.ofType, indexFields_cons, indexFields, inTurn, takeOut?, DeclaredType.target?,
    DeclaredType.targetWith?, DeclaredType.spell?, DeclaredType.spellWith?, DeclaredType.struct?,
    ElementType.struct?, FieldType.elementType, Field.reach?, FieldReach.entries, FieldReach.below,
    FieldReach.inner?, stored, index, owner, ids]

/-- Not every identifier may be bare, and not every field can be asked for: digits that are a number
out of range, with an exponent or without, and a field that is spelled like a keyword. -/
theorem bare_objectIds_refused :
    let compiled (field text : String) :=
      Build.outcome (compileText (typedBackend [(field, .element .objectId)]) text) []
    compiled "_id" "_id=999999999999999999999999" = (.error (.literal "_id"
        ⟨"999999999999999999999999", .integer,
          .integer "999999999999999999999999" .outOfRange⟩), []) ∧
      compiled "_id" "_id=10000000000000000000e999" = (.error (.literal "_id"
        ⟨"10000000000000000000e999", .float,
          .float "10000000000000000000e999" .outOfRange⟩), []) ∧
      compiled "AND" "AND=5f1a2b3c4d5e6f7a8b9c0d1e" =
        (.error (.parse (.unexpected 0 (some ⟨.and, "AND", 0⟩))), []) := by
  have parsed : parse "_id" = .ok [[[.mk false (.bare ⟨⟨.text, "_id", 0⟩, []⟩)]]] := rfl
  let nines : ObjectId.Spelling :=
    ⟨"999999999999999999999999", by decide, List.all_iff_forall_prop.mp (by decide)⟩
  let power : ObjectId.Spelling :=
    ⟨"10000000000000000000e999", by decide, List.all_iff_forall_prop.mp (by decide)⟩
  let row : DigitRow :=
    ⟨"999999999999999999999999".toList, by decide, List.all_eq_true.mp rfl⟩
  have isLargeInteger : nines.IsLargeInteger := ⟨row, rfl, by decide⟩
  have isLargeFloat : power.IsLargeFloat := by
    let numeral : ExponentNumeral :=
      ⟨⟨"10000000000000000000".toList, by decide, List.all_eq_true.mp rfl⟩,
        ⟨"999".toList, by decide, List.all_eq_true.mp rfl⟩⟩
    refine ⟨numeral, by decide +kernel, ?_⟩
    rw [← BinaryFormat.double_overflow]
    have room : BinaryFormat.double.overflow ≤ 10 ^ numeral.exponent.value :=
      BinaryFormat.overflow_le_pow (by decide +kernel)
    exact Nat.le_trans room (Nat.le_mul_of_pos_left _ (by decide +kernel))
  obtain ⟨isInteger, tooLarge⟩ := nines.content_of_isLargeInteger isLargeInteger
  obtain ⟨isFloat, infinite⟩ := power.content_of_isLargeFloat isLargeFloat
  exact ⟨outcome_equality_fault parsed (by decide) isInteger tooLarge,
    outcome_equality_fault parsed (by decide) isFloat infinite, rfl⟩

end Document

end FilterQuery
