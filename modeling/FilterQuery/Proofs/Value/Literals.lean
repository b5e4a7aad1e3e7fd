import FilterQuery.Proofs.Document.Coercion
import FilterQuery.Proofs.Instant.Reading
import FilterQuery.Proofs.Token.Coverage
import FilterQuery.Proofs.Tree.Grammar

/-!
# What literals stand for

An integer literal stands for the integer that its digits denote, in the narrowest width that holds
it.

Lexical classes and readers describe the syntax of literals each in their own way. They agree: a
literal that was read from a text is never malformed. `Literal.Resolves` lists what may become of
such a literal. It has no value if its number is out of range, or if there is no such date or time
of day, and in no other case.
-/

namespace FilterQuery

open Pattern LexicalClass

section Outcomes

variable {kind : LiteralKind} {text : String} {position : Nat}

theorem Literal.resolve_of_content {content : Content} (found : kind.content text = .ok content) :
    Literal.resolve ⟨kind, text, position⟩ = .ok ⟨text, content⟩ := by
  rw [Literal.resolve, found]

theorem Literal.resolve_of_fault {fault : LiteralFault}
    (failed : kind.content text = .error fault) :
    Literal.resolve ⟨kind, text, position⟩ = .error ⟨text, kind, fault⟩ := by
  rw [Literal.resolve, failed]

/-- A value is written as its literal is. -/
theorem Literal.raw_of_resolve {literal : Literal} {value : Value}
    (resolved : literal.resolve = .ok value) : value.raw = literal.text := by
  unfold Literal.resolve at resolved
  split at resolved
  · cases resolved
    rfl
  · cases resolved

end Outcomes

section Integers

/-- A value is the integer `n` of a kind and a type, whichever way it is asked for. -/
structure Value.IsInteger (value : Value) (kind : ValueKind) (type : IntegerType) (n : Int) :
    Prop where
  kind : value.kind = kind
  isInteger : value.isInteger = true
  integer : value.integer? = some n
  datum : value.datum = .integer type n

theorem IntegerType.int32_holds_iff {n : Int} :
    IntegerType.int32.holds n = true ↔ -2 ^ 31 ≤ n ∧ n < 2 ^ 31 := by
  have ends : IntegerType.int32.ends = (-2 ^ 31, 2 ^ 31 - 1) := rfl
  rw [IntegerType.holds_iff_inRange, IntegerType.InRange, ends, Int.le_sub_one_iff]

/-- The content of an integer: thirty-two bits if they hold it, else sixty-four. -/
def Content.ofInteger (n : Int) : Content :=
  if IntegerType.int32.holds n then .integer32 (Int32.ofInt n) else .integer64 (Int64.ofInt n)

/-- Reading an integer with thirty-two bits, and once more with sixty-four if it is out of their
range, is reading it with sixty-four bits and choosing the width afterwards. -/
theorem Content.readInteger_eq (text : String) :
    Content.readInteger text = (Number.readInteger 64 text).map Content.ofInteger := by
  unfold Content.readInteger
  cases wide : Number.readInteger 64 text with
  | ok n =>
    rw [Number.readInteger_of_wider (by decide) (by decide) wide, Number.fitInteger_eq]
    by_cases fits : -2 ^ 31 ≤ n ∧ n < 2 ^ 31
    · rw [if_pos fits, Except.map, Content.ofInteger,
        if_pos (IntegerType.int32_holds_iff.mpr fits)]
    · rw [if_neg fits, Except.map, Content.ofInteger,
        if_neg (mt IntegerType.int32_holds_iff.mp fits)]
  | error fault =>
    obtain narrow | narrow := Number.readInteger_error_of_wider (by decide : 32 ≤ 64) wide
    · rw [narrow]
      cases fault <;> rfl
    · rw [narrow]
      rfl

theorem Content.ofInteger_isInteger32 {n : Int} (fits : -2 ^ 31 ≤ n ∧ n < 2 ^ 31) (raw : String) :
    Value.IsInteger ⟨raw, Content.ofInteger n⟩ .integer32 .int32 n := by
  have same : (Int32.ofInt n).toInt = n := Int32.toInt_ofInt_of_le fits.1 fits.2
  rw [Content.ofInteger, if_pos (IntegerType.int32_holds_iff.mpr fits)]
  exact ⟨rfl, rfl, congrArg some same, congrArg (Datum.integer .int32) same⟩

theorem Content.ofInteger_isInteger64 {n : Int} (wide : ¬ (-2 ^ 31 ≤ n ∧ n < 2 ^ 31))
    (fits : -2 ^ 63 ≤ n ∧ n < 2 ^ 63) (raw : String) :
    Value.IsInteger ⟨raw, Content.ofInteger n⟩ .integer64 .int64 n := by
  have same : (Int64.ofInt n).toInt = n := Int64.toInt_ofInt_of_le fits.1 fits.2
  rw [Content.ofInteger, if_neg (mt IntegerType.int32_holds_iff.mp wide)]
  exact ⟨rfl, rfl, congrArg some same, congrArg (Datum.integer .int64) same⟩

namespace Numeral

variable (numeral : Numeral) (position : Nat)

theorem content_text : LiteralKind.integer.content numeral.text =
    if -2 ^ 63 ≤ numeral.value ∧ numeral.value < 2 ^ 63 then .ok (Content.ofInteger numeral.value)
    else .error (.integer numeral.text .outOfRange) := by
  unfold LiteralKind.content
  rw [Content.readInteger_eq, numeral.readInteger_text]
  by_cases fits : -2 ^ 63 ≤ numeral.value ∧ numeral.value < 2 ^ 63
  · rw [if_pos fits, if_pos fits]
    rfl
  · rw [if_neg fits, if_neg fits]
    rfl

theorem resolve_text (fits : -2 ^ 63 ≤ numeral.value ∧ numeral.value < 2 ^ 63) :
    Literal.resolve ⟨.integer, numeral.text, position⟩ =
      .ok ⟨numeral.text, Content.ofInteger numeral.value⟩ :=
  Literal.resolve_of_content (by rw [content_text, if_pos fits])

theorem resolve_text_outOfRange (large : ¬ (-2 ^ 63 ≤ numeral.value ∧ numeral.value < 2 ^ 63)) :
    Literal.resolve ⟨.integer, numeral.text, position⟩ =
      .error ⟨numeral.text, .integer, .integer numeral.text .outOfRange⟩ :=
  Literal.resolve_of_fault (by rw [content_text, if_neg large])

end Numeral

/-- An integer literal keeps its value. It gets thirty-two bits if they hold it, else sixty-four,
and it is an error if these do not hold it either. -/
theorem integer_literals_keep_value (numeral : Numeral) (position : Nat) :
    (-2 ^ 31 ≤ numeral.value ∧ numeral.value < 2 ^ 31 →
      ∃ value, Literal.resolve ⟨.integer, numeral.text, position⟩ = .ok value ∧
        value.raw = numeral.text ∧ value.IsInteger .integer32 .int32 numeral.value) ∧
    (¬ (-2 ^ 31 ≤ numeral.value ∧ numeral.value < 2 ^ 31) →
      -2 ^ 63 ≤ numeral.value ∧ numeral.value < 2 ^ 63 →
      ∃ value, Literal.resolve ⟨.integer, numeral.text, position⟩ = .ok value ∧
        value.raw = numeral.text ∧ value.IsInteger .integer64 .int64 numeral.value) ∧
    (¬ (-2 ^ 63 ≤ numeral.value ∧ numeral.value < 2 ^ 63) →
      Literal.resolve ⟨.integer, numeral.text, position⟩ =
        .error ⟨numeral.text, .integer, .integer numeral.text .outOfRange⟩) := by
  refine ⟨fun narrow => ?_, fun wide fits => ?_, numeral.resolve_text_outOfRange position⟩
  · have fits : -2 ^ 63 ≤ numeral.value ∧ numeral.value < 2 ^ 63 := by omega
    exact ⟨_, numeral.resolve_text position fits, rfl, Content.ofInteger_isInteger32 narrow _⟩
  · exact ⟨_, numeral.resolve_text position fits, rfl, Content.ofInteger_isInteger64 wide fits _⟩

/-- The least number of thirty-two bits behind two zeros, the number above the largest one, and the
number above the largest one of sixty-four bits. -/
theorem integer_literals_keep_value_limits :
    (∃ value, Literal.resolve ⟨.integer, "-002147483648", 0⟩ = .ok value ∧
      value.raw = "-002147483648" ∧ value.IsInteger .integer32 .int32 (-2147483648)) ∧
    (∃ value, Literal.resolve ⟨.integer, "2147483648", 0⟩ = .ok value ∧
      value.raw = "2147483648" ∧ value.IsInteger .integer64 .int64 2147483648) ∧
    Literal.resolve ⟨.integer, "9223372036854775808", 0⟩ =
      .error ⟨"9223372036854775808", .integer, .integer "9223372036854775808" .outOfRange⟩ := by
  let least : Numeral := ⟨true, "002147483648".toList, by decide, List.all_eq_true.mp rfl⟩
  let wide : Numeral := ⟨false, "2147483648".toList, by decide, List.all_eq_true.mp rfl⟩
  let large : Numeral := ⟨false, "9223372036854775808".toList, by decide, List.all_eq_true.mp rfl⟩
  have leastValue : least.value = -2147483648 := by decide
  have wideValue : wide.value = 2147483648 := by decide
  have largeValue : large.value = 9223372036854775808 := by decide
  have atLeast := (integer_literals_keep_value least 0).1
  have atWide := (integer_literals_keep_value wide 0).2.1
  rw [leastValue] at atLeast
  rw [wideValue] at atWide
  refine ⟨atLeast (by decide), atWide (by decide) (by decide), ?_⟩
  exact (integer_literals_keep_value large 0).2.2 (by rw [largeValue]; decide)

end Integers

section Lexemes

variable {text : String}

/-- What the class of strings describes stands between quotation marks. -/
theorem LexicalClass.exists_inner_of_string (described : stringPattern.Matches text.toList) :
    ∃ inner, text.toList = '"' :: (inner ++ ['"']) := by
  obtain ⟨_, _, whole, opening, further⟩ := matches_seq_iff.mp described
  obtain ⟨inner, _, rfl, -, last⟩ := matches_seq_iff.mp further
  obtain ⟨_, _, rfl, closing, nothing⟩ := matches_seq_iff.mp last
  obtain rfl := matches_is_iff.mp opening
  obtain rfl := matches_is_iff.mp closing
  obtain rfl := matches_empty_iff.mp nothing
  exact ⟨inner, whole⟩

theorem stripQuotes_of_quoted {inner : List Char} (quoted : text.toList = '"' :: (inner ++ ['"'])) :
    stripQuotes text = String.ofList inner := by
  simp [stripQuotes, quoted]

theorem Text.utf8Bytes_of_quoted {inner : List Char}
    (quoted : text.toList = '"' :: (inner ++ ['"'])) :
    Text.utf8Bytes text = 34 :: (Text.utf8Bytes (String.ofList inner) ++ [34]) := by
  have mark : String.utf8EncodeChar '"' = [34] := rfl
  simp [Text.utf8Bytes, quoted, mark]

theorem stripSeconds_of_suffix {number : List Char} (suffixed : text.toList = number ++ ['s']) :
    stripSeconds text = String.ofList number := by
  simp [stripSeconds, suffixed]

/-- The pattern of its class describes a token. -/
theorem Token.matches_of_tokenize {list : TokenList} (tokenized : tokenize text = .ok list)
    {token : Token} (listed : token ∈ list.tokens) {lexicalClass : LexicalClass}
    (own : LexicalClass.table.find? (·.kind == token.kind) = some lexicalClass) :
    lexicalClass.pattern.Matches token.text.toList := by
  have inTable : lexicalClass ∈ LexicalClass.table := List.mem_of_find?_eq_some own
  have same : lexicalClass.kind = token.kind := by simpa using List.find?_some own
  obtain ⟨-, rfl⟩ := tokenize_eq_ok_iff.mp tokenized
  rcases ((accountsFor_scan text).standsIn token listed).belongs with
    ⟨isMinus, -⟩ | ⟨other, otherInTable, otherSame, described, -⟩
  · rw [isMinus] at own
    cases own
  · rwa [eq_of_kind inTable otherInTable (same.trans otherSame.symm)]

end Lexemes

section Resolving

open Instant

/-- What may become of a literal. Only these faults are among it: a number out of range, and a date
or a time of day that does not exist. -/
inductive Literal.Resolves : Literal → Except LiteralError Value → Prop where
  | boolean {position : Nat} (b : Bool) :
      Resolves ⟨.boolean, Value.booleanText b, position⟩ (.ok ⟨Value.booleanText b, .boolean b⟩)
  | string {text inner : String} {position : Nat} :
      Text.utf8Bytes text = 34 :: (Text.utf8Bytes inner ++ [34]) →
      Resolves ⟨.string, text, position⟩ (.ok ⟨text, .string inner⟩)
  | text {text : String} {position : Nat} :
      Resolves ⟨.text, text, position⟩ (.ok ⟨text, .text text⟩)
  | asterisk {position : Nat} : Resolves ⟨.asterisk, "*", position⟩ (.ok ⟨"*", .wildcard "*"⟩)
  | integer {numeral : Numeral} {position : Nat} :
      -2 ^ 63 ≤ numeral.value ∧ numeral.value < 2 ^ 63 →
      Resolves ⟨.integer, numeral.text, position⟩
        (.ok ⟨numeral.text, Content.ofInteger numeral.value⟩)
  | integerOutOfRange {numeral : Numeral} {position : Nat} :
      ¬ (-2 ^ 63 ≤ numeral.value ∧ numeral.value < 2 ^ 63) →
      Resolves ⟨.integer, numeral.text, position⟩
        (.error ⟨numeral.text, .integer, .integer numeral.text .outOfRange⟩)
  | float {text : String} {position : Nat} {x : Binary64} :
      Resolves ⟨.float, text, position⟩ (.ok ⟨text, .float x⟩)
  | floatOutOfRange {text : String} {position : Nat} :
      Resolves ⟨.float, text, position⟩ (.error ⟨text, .float, .float text .outOfRange⟩)
  | duration {text : String} {position : Nat} {milliseconds : Binary64} :
      Resolves ⟨.duration, text, position⟩ (.ok ⟨text, .duration milliseconds⟩)
  | durationOutOfRange {number : String} {position : Nat} :
      Resolves ⟨.duration, number ++ "s", position⟩
        (.error ⟨number ++ "s", .duration, .float number .outOfRange⟩)
  | datetime {spelling : Spelling} {position : Nat} :
      spelling.IsReal → spelling.OffsetAtMost 24 60 →
      Resolves ⟨.datetime, spelling.text, position⟩
        (.ok ⟨spelling.text, .instant spelling.instant⟩)
  | noDatetime {spelling : Spelling} {position : Nat} {error : DatetimeError} :
      ¬ (spelling.IsReal ∧ spelling.OffsetAtMost 24 60) →
      Resolves ⟨.datetime, spelling.text, position⟩
        (.error ⟨spelling.text, .datetime, .datetime error⟩)

namespace Literal

variable {text : String} {position : Nat}

theorem resolves_boolean
    (described : (choice (word "true") (word "false")).Matches text.toList) :
    Literal.Resolves ⟨.boolean, text, position⟩ (Literal.resolve ⟨.boolean, text, position⟩) := by
  rcases matches_choice_iff.mp described with isTrue | isFalse
  · obtain rfl := String.toList_inj.mp (matches_word_iff.mp isTrue)
    exact .boolean true
  · obtain rfl := String.toList_inj.mp (matches_word_iff.mp isFalse)
    exact .boolean false

theorem resolves_string (described : stringPattern.Matches text.toList) :
    Literal.Resolves ⟨.string, text, position⟩ (Literal.resolve ⟨.string, text, position⟩) := by
  obtain ⟨inner, quoted⟩ := exists_inner_of_string described
  have content : LiteralKind.string.content text = .ok (.string (stripQuotes text)) := rfl
  rw [stripQuotes_of_quoted quoted] at content
  rw [resolve_of_content content]
  exact .string (Text.utf8Bytes_of_quoted quoted)

theorem resolves_asterisk (described : (is '*').Matches text.toList) :
    Literal.Resolves ⟨.asterisk, text, position⟩ (Literal.resolve ⟨.asterisk, text, position⟩) := by
  obtain rfl : text = "*" := String.toList_inj.mp (matches_is_iff.mp described)
  exact .asterisk

theorem resolves_integer (described : integerPattern.Matches text.toList) :
    Literal.Resolves ⟨.integer, text, position⟩ (Literal.resolve ⟨.integer, text, position⟩) := by
  obtain ⟨numeral, rfl⟩ := Numeral.exists_text_iff.mpr described
  by_cases fits : -2 ^ 63 ≤ numeral.value ∧ numeral.value < 2 ^ 63
  · rw [numeral.resolve_text position fits]
    exact .integer fits
  · rw [numeral.resolve_text_outOfRange position fits]
    exact .integerOutOfRange fits

theorem resolves_float (described : floatPattern.Matches text.toList) :
    Literal.Resolves ⟨.float, text, position⟩ (Literal.resolve ⟨.float, text, position⟩) := by
  obtain ⟨sign, magnitude, whole, isSign, isMagnitude⟩ := magnitude_of_float described
  have cases := Number.readFloat_cases isSign isMagnitude
  rw [← whole, String.ofList_toList] at cases
  rcases cases with ⟨x, read⟩ | outOfRange
  · have content : LiteralKind.float.content text = .ok (.float x) := by
      unfold LiteralKind.content
      rw [read]
    rw [resolve_of_content content]
    exact .float
  · have failed : LiteralKind.float.content text = .error (.float text .outOfRange) := by
      unfold LiteralKind.content
      rw [outOfRange]
    rw [resolve_of_fault failed]
    exact .floatOutOfRange

theorem resolves_duration (described : durationPattern.Matches text.toList) :
    Literal.Resolves ⟨.duration, text, position⟩ (Literal.resolve ⟨.duration, text, position⟩) := by
  obtain ⟨sign, magnitude, whole, isSign, isMagnitude⟩ := magnitude_of_duration described
  have suffixed : text = String.ofList (sign ++ magnitude) ++ "s" := by
    rw [← String.toList_inj, whole]
    simp
  rcases Number.readFloat_cases isSign isMagnitude with ⟨seconds, read⟩ | outOfRange
  · have content : LiteralKind.duration.content text = .ok (.duration (seconds.scale 1000 1)) := by
      unfold LiteralKind.content
      rw [stripSeconds_of_suffix whole, read]
    rw [resolve_of_content content]
    exact .duration
  · have failed : LiteralKind.duration.content text =
        .error (.float (String.ofList (sign ++ magnitude)) .outOfRange) := by
      unfold LiteralKind.content
      rw [stripSeconds_of_suffix whole, outOfRange]
    rw [resolve_of_fault failed, suffixed]
    exact .durationOutOfRange

theorem resolves_datetime (described : datetimePattern.Matches text.toList) :
    Literal.Resolves ⟨.datetime, text, position⟩ (Literal.resolve ⟨.datetime, text, position⟩) := by
  obtain ⟨spelling, rfl⟩ := exists_spelling_of_matches described
  cases found : read spelling.text with
  | ok instant =>
    obtain ⟨isReal, allowed, rfl⟩ := spelling.read_text_eq_ok_iff.mp found
    rw [resolve_datetime found]
    exact .datetime isReal allowed
  | error error =>
    rw [resolve_no_datetime found]
    refine .noDatetime fun ⟨isReal, allowed⟩ => ?_
    rw [spelling.read_text_eq_ok_iff.mpr ⟨isReal, allowed, rfl⟩] at found
    cases found

end Literal

/-- A literal that was read from a text has a value, unless its number is out of range or there is
no such date, and the value is written as the token is. -/
theorem lexed_literals_resolve {text : String} {list : TokenList}
    (tokenized : tokenize text = .ok list) {token : Token} (listed : token ∈ list.tokens)
    {literal : Literal} (named : literal.NamedBy token) :
    literal.Resolves literal.resolve ∧
      ∀ value, literal.resolve = .ok value → value.raw = token.text := by
  cases named with
  | keyword isKeyword => exact ⟨.text, fun value => Literal.raw_of_resolve⟩
  | value spelled =>
    refine ⟨?_, fun value resolved => (Literal.raw_of_resolve resolved).trans spelled.text⟩
    obtain ⟨kind, tokenText, tokenPosition⟩ := token
    obtain ⟨literalKind, literalText, literalPosition⟩ := literal
    obtain ⟨sameKind, rfl, rfl⟩ := spelled
    have described (lexicalClass : LexicalClass)
        (own : LexicalClass.table.find? (·.kind == kind) = some lexicalClass) :
        lexicalClass.pattern.Matches literalText.toList :=
      Token.matches_of_tokenize tokenized listed own
    simp only [valueClasses, List.mem_cons, Prod.mk.injEq, List.not_mem_nil, or_false] at sameKind
    rcases sameKind with ⟨rfl, rfl⟩ | ⟨rfl, rfl⟩ | ⟨rfl, rfl⟩ | ⟨rfl, rfl⟩ | ⟨rfl, rfl⟩ |
      ⟨rfl, rfl⟩ | ⟨rfl, rfl⟩ | ⟨rfl, rfl⟩
    · exact Literal.resolves_integer (described integerClass rfl)
    · exact Literal.resolves_float (described floatClass rfl)
    · exact Literal.resolves_boolean (described ⟨.boolean, _, true⟩ rfl)
    · exact Literal.resolves_duration (described durationClass rfl)
    · exact Literal.resolves_datetime (described datetimeClass rfl)
    · exact Literal.resolves_string (described stringClass rfl)
    · exact .text
    · exact Literal.resolves_asterisk (described ⟨.asterisk, _, true⟩ rfl)

/-- A keyword behind a dot, a string with a character of two bytes, and an integer just below the
range. -/
theorem lexed_literals_resolve_limits :
    ∃ list, tokenize "a.OR=\"é\" n>-9223372036854775809" = .ok list ∧
      (⟨.or, "OR", 2⟩ ∈ list.tokens ∧
        Literal.Resolves ⟨.text, "OR", 2⟩ (.ok ⟨"OR", .text "OR"⟩)) ∧
      (⟨.string, "\"é\"", 5⟩ ∈ list.tokens ∧
        Literal.Resolves ⟨.string, "\"é\"", 5⟩ (.ok ⟨"\"é\"", .string "é"⟩)) ∧
      (⟨.integer, "-9223372036854775809", 12⟩ ∈ list.tokens ∧
        Literal.Resolves ⟨.integer, "-9223372036854775809", 12⟩
          (.error ⟨"-9223372036854775809", .integer,
            .integer "-9223372036854775809" .outOfRange⟩)) := by
  obtain ⟨list, tokenized, keyword, string, integer⟩ :
      ∃ list, tokenize "a.OR=\"é\" n>-9223372036854775809" = .ok list ∧
        ⟨.or, "OR", 2⟩ ∈ list.tokens ∧ ⟨.string, "\"é\"", 5⟩ ∈ list.tokens ∧
        ⟨.integer, "-9223372036854775809", 12⟩ ∈ list.tokens :=
    ⟨_, rfl, by decide, by decide, by decide⟩
  refine ⟨list, tokenized, ⟨keyword, ?_⟩, ⟨string, ?_⟩, ⟨integer, ?_⟩⟩
  · exact (lexed_literals_resolve tokenized keyword (.keyword (by decide))).1
  · exact (lexed_literals_resolve tokenized string (.value ⟨by decide, rfl, rfl⟩)).1
  · exact (lexed_literals_resolve tokenized integer (.value ⟨by decide, rfl, rfl⟩)).1

end Resolving

end FilterQuery
