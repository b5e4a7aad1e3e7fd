import FilterQuery.Proofs.Token.Scan
import FilterQuery.Proofs.Token.Stability
import Mathlib.Data.Bool.AllAny
import Mathlib.Data.List.Nodup
import Mathlib.Tactic.IntervalCases

/-!
# Numbers before a dot

A whole number directly before a dot may be the beginning of a longer number. It is a token of its
own exactly if what follows the dot does not start with a number, be it a whole one, one with a
fraction or an exponent, or a length of time.

To say so, the classes of numbers are described by what they take: a sign, digits, a fraction, and
an exponent or a unit.
-/

namespace FilterQuery

open Pattern LexicalClass

section Characters

/-- Whether a pattern takes nothing from a text that starts with the character `c`. -/
def Pattern.refusesFirst (c : Char) : Pattern → Bool
  | .empty | .many _ => false
  | .char allowed => !allowed c
  | .seq first _ => first.refusesFirst c
  | .choice first second => first.refusesFirst c && second.refusesFirst c

theorem Pattern.split?_eq_none_of_refusesFirst {pattern : Pattern} {c : Char}
    (refuses : pattern.refusesFirst c = true) (rest : List Char) :
    pattern.split? (c :: rest) = none := by
  induction pattern with
  | empty | many _ => cases refuses
  | char allowed =>
    have refused : allowed c = false := by simpa [refusesFirst] using refuses
    simp [split?, refused]
  | seq first second firstRefuses _ => simp [split?, firstRefuses refuses]
  | choice first second firstRefuses secondRefuses =>
    rw [refusesFirst, Bool.and_eq_true] at refuses
    simp [split?, firstRefuses refuses.1, secondRefuses refuses.2]

/-- Whether a pattern takes at least one character from every text from which it takes anything. -/
def Pattern.consumes : Pattern → Bool
  | .empty | .many _ => false
  | .char _ => true
  | .seq first second => first.consumes || second.consumes
  | .choice first second => first.consumes && second.consumes

theorem Pattern.ne_nil_of_consumes {pattern : Pattern} (consumes : pattern.consumes = true)
    {text head rest : List Char} (found : pattern.split? text = some (head, rest)) : head ≠ [] := by
  induction pattern generalizing text head rest with
  | empty | many _ => cases consumes
  | char allowed =>
    cases text with
    | nil => cases found
    | cons c tail =>
      obtain ⟨-, rfl, -⟩ : allowed c = true ∧ [c] = head ∧ tail = rest := by
        simpa [split?] using found
      exact List.cons_ne_nil c []
  | seq first second firstConsumes secondConsumes =>
    obtain ⟨left, middle, right, leftFound, rightFound, rfl⟩ := split?_seq_eq_some_iff.mp found
    rcases Bool.or_eq_true_iff.mp consumes with consumesFirst | consumesSecond
    · simp [firstConsumes consumesFirst leftFound]
    · simp [secondConsumes consumesSecond rightFound]
  | choice first second firstConsumes secondConsumes =>
    rw [Pattern.consumes, Bool.and_eq_true] at consumes
    rcases split?_choice found with taken | taken
    · exact firstConsumes consumes.1 taken
    · exact secondConsumes consumes.2 taken

/-- The ASCII digits. -/
def asciiDigits : List Char := "0123456789".toList

theorem mem_asciiDigits {c : Char} (digit : c.isDigit = true) : c ∈ asciiDigits := by
  have bounds : 48 ≤ c.toNat ∧ c.toNat ≤ 57 := by
    simpa [Char.isDigit, UInt32.le_iff_toNat_le] using digit
  rw [← Char.ofNat_toNat c]
  obtain ⟨lower, upper⟩ := bounds
  generalize c.toNat = code at lower upper
  interval_cases code <;> decide

end Characters

section Classes

theorem LexicalClass.lexeme?_eq_none {lexicalClass : LexicalClass} {text : List Char}
    (missing : lexicalClass.pattern.split? text = none) : lexicalClass.lexeme? text = none := by
  simp [lexeme?, missing]

theorem LexicalClass.lexeme?_eq_some_iff {lexicalClass : LexicalClass} {text lexeme : List Char} :
    lexicalClass.lexeme? text = some lexeme ↔
      ∃ rest, lexicalClass.pattern.split? text = some (lexeme, rest) ∧
        (lexicalClass.delimited = true → endsWord rest = true) := by
  unfold lexeme?
  rcases lexicalClass.pattern.split? text with _ | ⟨taken, rest⟩
  · simp
  · cases lexicalClass.delimited <;> simp [and_comm]

/-- A text that is a token as a whole is taken as a whole. -/
theorem LexicalClass.split?_of_lexeme? {lexicalClass : LexicalClass} {word : List Char}
    (read : lexicalClass.lexeme? word = some word) :
    lexicalClass.pattern.split? word = some (word, []) := by
  obtain ⟨rest, taken, -⟩ := lexeme?_eq_some_iff.mp read
  obtain rfl : rest = [] := by simpa using split?_append taken
  exact taken

/-- No two classes are of one kind. -/
theorem eq_of_kind {first second : LexicalClass} (firstListed : first ∈ LexicalClass.table)
    (secondListed : second ∈ LexicalClass.table) (same : first.kind = second.kind) :
    first = second := by
  have distinct : (LexicalClass.table.map LexicalClass.kind).Nodup := by decide
  exact List.inj_on_of_nodup_map distinct firstListed secondListed same

/-- A token is a minus sign or a lexeme of its class, and of no class before that one. -/
theorem nextToken?_eq_some_iff {after : Bool} {text lexeme : List Char} {kind : TokenKind} :
    nextToken? after text = some (kind, lexeme) ↔
      (startsNegation after text = true ∧ kind = .minus ∧ lexeme = ['-']) ∨
      (startsNegation after text = false ∧ ∃ earlier lexicalClass later,
        LexicalClass.table = earlier ++ lexicalClass :: later ∧ lexicalClass.kind = kind ∧
        lexicalClass.lexeme? text = some lexeme ∧
        ∀ other ∈ earlier, other.lexeme? text = none) := by
  unfold nextToken?
  cases startsNegation after text with
  | true => simp [eq_comm]
  | false =>
    simp only [Bool.false_eq_true, if_false, false_and, true_and, false_or,
      List.findSome?_eq_some_iff]
    constructor
    · rintro ⟨earlier, lexicalClass, later, order, read, failed⟩
      obtain ⟨taken, takenHere, same⟩ := Option.map_eq_some_iff.mp read
      obtain ⟨rfl, rfl⟩ := Prod.mk.inj same
      exact ⟨earlier, lexicalClass, later, order, rfl, takenHere,
        fun other listed => Option.map_eq_none_iff.mp (failed other listed)⟩
    · rintro ⟨earlier, lexicalClass, later, order, rfl, takenHere, failed⟩
      exact ⟨earlier, lexicalClass, later, order, by simp [takenHere],
        fun other listed => by simp [failed other listed]⟩

/-- A token other than a minus sign is a lexeme of the class of its kind. -/
theorem lexeme?_of_nextToken? {after : Bool} {text lexeme : List Char} {kind : TokenKind}
    (found : nextToken? after text = some (kind, lexeme)) {lexicalClass : LexicalClass}
    (listed : lexicalClass ∈ LexicalClass.table) (sameKind : lexicalClass.kind = kind) :
    startsNegation after text = false ∧ lexicalClass.lexeme? text = some lexeme := by
  rcases nextToken?_eq_some_iff.mp found with
    ⟨-, isMinus, -⟩ | ⟨unsigned, earlier, chosen, later, order, chosenKind, read, -⟩
  · have noMinus : ∀ lexicalClass ∈ LexicalClass.table, lexicalClass.kind ≠ .minus := by decide
    exact absurd (sameKind.trans isMinus) (noMinus lexicalClass listed)
  · have chosenListed : chosen ∈ LexicalClass.table := by simp [order]
    obtain rfl := eq_of_kind listed chosenListed (sameKind.trans chosenKind.symm)
    exact ⟨unsigned, read⟩

theorem startsNegation_of_ne {c : Char} (noMinus : c ≠ '-') (after : Bool) (rest : List Char) :
    startsNegation after (c :: rest) = false := by
  simp [startsNegation, noMinus]

theorem exists_of_startsNegation {after : Bool} {text : List Char}
    (minus : startsNegation after text = true) : ∃ rest, text = '-' :: rest := by
  unfold startsNegation at minus
  split at minus
  · exact ⟨_, rfl⟩
  · exact ⟨_, rfl⟩
  · cases minus

/-- A token is the head of the text that it is read from. -/
theorem nextToken?_isPrefix {after : Bool} {text lexeme : List Char} {kind : TokenKind}
    (found : nextToken? after text = some (kind, lexeme)) : lexeme <+: text := by
  rcases nextToken?_eq_some_iff.mp found with
    ⟨minus, -, rfl⟩ | ⟨-, earlier, chosen, later, -, -, read, -⟩
  · obtain ⟨rest, rfl⟩ := exists_of_startsNegation minus
    exact ⟨rest, rfl⟩
  · obtain ⟨rest, taken, -⟩ := lexeme?_eq_some_iff.mp read
    exact ⟨rest, split?_append taken⟩

/-- A token has at least one character. -/
theorem nextToken?_ne_nil {after : Bool} {text lexeme : List Char} {kind : TokenKind}
    (found : nextToken? after text = some (kind, lexeme)) : lexeme ≠ [] := by
  have consume : ∀ lexicalClass ∈ LexicalClass.table, lexicalClass.pattern.consumes = true := by
    decide
  rcases nextToken?_eq_some_iff.mp found with
    ⟨-, -, rfl⟩ | ⟨-, earlier, chosen, later, order, -, read, -⟩
  · exact List.cons_ne_nil _ _
  · obtain ⟨rest, taken, -⟩ := lexeme?_eq_some_iff.mp read
    exact ne_nil_of_consumes (consume chosen (by simp [order])) taken

end Classes

/-- The class of dates, with or without a time of day. -/
def datetimeClass : LexicalClass := ⟨.datetime, datetimePattern, true⟩

/-- The class of lengths of time. -/
def durationClass : LexicalClass := ⟨.duration, durationPattern, true⟩

/-- The class of numbers with a fraction or an exponent. -/
def floatClass : LexicalClass := ⟨.float, floatPattern, true⟩

/-- The class of whole numbers. -/
def integerClass : LexicalClass := ⟨.integer, integerPattern, true⟩

/-- The classes of numbers, which a fraction may turn into one another. -/
def numberClasses : List LexicalClass := [durationClass, floatClass, integerClass]

theorem numberClasses_subset : numberClasses ⊆ LexicalClass.table := by
  simp [numberClasses, durationClass, floatClass, integerClass, table]

/-- The kinds of numbers. -/
def numberKinds : List TokenKind := numberClasses.map LexicalClass.kind

/-- The classes of words that start with a digit. -/
def numericTable : List LexicalClass := LexicalClass.table.drop 9

/-- A date is tried before a number, and a number before a text. -/
theorem numericTable_eq :
    numericTable = datetimeClass :: (numberClasses ++ LexicalClass.table.drop 13) := rfl

theorem table_shrinks :
    ∀ lexicalClass ∈ LexicalClass.table, lexicalClass.pattern.shrinks = true := by
  decide

theorem nextToken?_numeric {after : Bool} {c : Char} {rest : List Char}
    (numeric : c ∈ '-' :: asciiDigits) (signed : startsNegation after (c :: rest) = false) :
    nextToken? after (c :: rest) = numericTable.findSome? fun lexicalClass =>
      (lexicalClass.lexeme? (c :: rest)).map (lexicalClass.kind, ·) := by
  have refuse : ∀ c ∈ '-' :: asciiDigits, ∀ lexicalClass ∈ LexicalClass.table.take 9,
      lexicalClass.pattern.refusesFirst c = true :=
    List.all_iff_forall_prop.mp (by decide)
  have none : (LexicalClass.table.take 9).findSome? (fun lexicalClass =>
      (lexicalClass.lexeme? (c :: rest)).map (lexicalClass.kind, ·)) = none := by
    refine List.findSome?_eq_none_iff.mpr fun lexicalClass listed => ?_
    have missing := split?_eq_none_of_refusesFirst (refuse c numeric lexicalClass listed) rest
    rw [lexeme?_eq_none missing]
    rfl
  rw [nextToken?, if_neg (by simp [signed]), ← List.take_append_drop 9 LexicalClass.table,
    List.findSome?_append, none, Option.none_or]
  rfl

section Numbers

/-- Whether a text starts with an ASCII digit. -/
def startsWithDigit : List Char → Bool
  | [] => false
  | c :: _ => c.isDigit

theorem startsWithDigit_dropWhile (text : List Char) :
    startsWithDigit (text.dropWhile Char.isDigit) = false := by
  induction text with
  | nil => rfl
  | cons c rest inductionHypothesis =>
    by_cases isDigit : c.isDigit = true
    · simpa [isDigit] using inductionHypothesis
    · simp [isDigit, startsWithDigit]

/-- What starts with no digit has no digits to take. -/
theorem takeWhile_digits {text : List Char} (none : startsWithDigit text = false) :
    text.takeWhile Char.isDigit = [] ∧ text.dropWhile Char.isDigit = text := by
  cases text with
  | nil => exact ⟨rfl, rfl⟩
  | cons c rest =>
    have noDigit : c.isDigit = false := none
    simp [noDigit]

/-- A number is a run of digits that ends where no digit follows. -/
theorem number_split?_eq_some_iff {text head rest : List Char} :
    number.split? text = some (head, rest) ↔
      text = head ++ rest ∧ head ≠ [] ∧ (∀ c ∈ head, c.isDigit = true) ∧
        startsWithDigit rest = false := by
  constructor
  · intro found
    have whole := split?_append found
    obtain ⟨left, middle, right, first, others, rfl⟩ := split?_seq_eq_some_iff.mp found
    rw [digit, split?_many_char, Option.some.injEq, Prod.mk.injEq] at others
    obtain ⟨rfl, rfl⟩ := others
    cases text with
    | nil => cases first
    | cons c tail =>
      obtain ⟨isDigit, rfl, rfl⟩ : c.isDigit = true ∧ [c] = left ∧ tail = middle := by
        simpa [digit, split?] using first
      refine ⟨whole.symm, by simp, ?_, startsWithDigit_dropWhile _⟩
      intro d member
      rcases List.mem_cons.mp member with rfl | later
      · exact isDigit
      · exact List.all_eq_true.mp List.all_takeWhile d later
  · rintro ⟨rfl, nonempty, digits, none⟩
    obtain ⟨c, tail, rfl⟩ := List.exists_cons_of_ne_nil nonempty
    obtain ⟨isDigit, others⟩ := List.forall_mem_cons.mp digits
    have nothing := takeWhile_digits none
    refine split?_seq_eq_some_iff.mpr ⟨[c], tail ++ rest, tail, ?_, ?_, rfl⟩
    · simp [digit, split?, isDigit]
    · rw [digit, split?_many_char, List.takeWhile_append_of_pos others,
        List.dropWhile_append_of_pos others, nothing.1, nothing.2, List.append_nil]

theorem number_split?_eq_none_iff {text : List Char} :
    number.split? text = none ↔ startsWithDigit text = false := by
  cases text with
  | nil => simp [startsWithDigit, number, several, split?, digit]
  | cons c rest =>
    by_cases isDigit : c.isDigit = true
    · simp [startsWithDigit, number, several, split?, digit, isDigit]
    · simp [startsWithDigit, number, several, split?, digit, isDigit]

/-- What a sign may be. -/
def IsSign (sign : List Char) : Prop := sign = [] ∨ sign = ['-']

theorem isSign_of_split? {text sign rest : List Char}
    (found : (optionally (is '-')).split? text = some (sign, rest)) : IsSign sign := by
  rcases split?_choice found with taken | nothing
  · have isMinus : sign = ['-'] := by
      cases text with
      | nil => cases taken
      | cons c tail =>
        obtain ⟨rfl, rfl, -⟩ : c = '-' ∧ [c] = sign ∧ tail = rest := by
          simpa [is, split?] using taken
        rfl
    exact .inr isMinus
  · have isEmpty : [] = sign := by simpa [split?] using congrArg (Option.map Prod.fst) nothing
    exact .inl isEmpty.symm

/-- Before digits, a sign is taken as such. -/
theorem sign_split? {sign digits : List Char} (isSign : IsSign sign)
    (digit : startsWithDigit digits = true) :
    (optionally (is '-')).split? (sign ++ digits) = some (sign, digits) := by
  rcases isSign with rfl | rfl
  · cases digits with
    | nil => cases digit
    | cons c rest =>
      have noMinus : c ≠ '-' := by
        rintro rfl
        cases digit
      simp [optionally, is, split?, noMinus]
  · rfl

theorem startsWithDigit_append {digits : List Char} (nonempty : digits ≠ [])
    (areDigits : ∀ c ∈ digits, c.isDigit = true) (more : List Char) :
    startsWithDigit (digits ++ more) = true := by
  obtain ⟨c, rest, rfl⟩ := List.exists_cons_of_ne_nil nonempty
  exact areDigits c (by simp)

/-- A word of an optional sign and digits. -/
def IsInteger (word : List Char) : Prop := integerPattern.split? word = some (word, [])

theorem isInteger_iff {word : List Char} :
    IsInteger word ↔ ∃ sign digits, word = sign ++ digits ∧ IsSign sign ∧ digits ≠ [] ∧
      ∀ c ∈ digits, c.isDigit = true := by
  constructor
  · intro isInteger
    obtain ⟨sign, middle, digits, signFound, found, same⟩ := split?_seq_eq_some_iff.mp isInteger
    obtain ⟨-, nonempty, areDigits, -⟩ := number_split?_eq_some_iff.mp found
    exact ⟨sign, digits, same.symm, isSign_of_split? signFound, nonempty, areDigits⟩
  · rintro ⟨sign, digits, rfl, isSign, nonempty, areDigits⟩
    have first : startsWithDigit digits = true := by
      simpa using startsWithDigit_append nonempty areDigits []
    refine split?_seq_eq_some_iff.mpr ⟨sign, digits, digits, sign_split? isSign first, ?_, rfl⟩
    exact number_split?_eq_some_iff.mpr ⟨by simp, nonempty, areDigits, rfl⟩

end Numbers

section Fractions

/-- The first character of a text, which a pattern of one character takes. -/
theorem is_split?_eq_some_iff {c : Char} {text head rest : List Char} :
    (is c).split? text = some (head, rest) ↔ text = c :: rest ∧ head = [c] := by
  cases text with
  | nil => simp [is, split?]
  | cons first tail =>
    by_cases same : first = c
    · subst same
      simp [is, split?, eq_comm, and_comm]
    · simp [is, split?, same]

/-- A dot and digits, or nothing. -/
def fractionPattern : Pattern := optionally (all [is '.', number])

theorem fractionPattern_dot_of_number {text digits rest : List Char}
    (found : number.split? text = some (digits, rest)) :
    fractionPattern.split? ('.' :: text) = some ('.' :: digits, rest) := by
  have dot : (is '.').split? ('.' :: text) = some (['.'], text) := rfl
  simp [fractionPattern, optionally, all, split?, dot, found]

theorem fractionPattern_dot_of_none {text : List Char} (none : number.split? text = none) :
    fractionPattern.split? ('.' :: text) = some ([], '.' :: text) := by
  have dot : (is '.').split? ('.' :: text) = some (['.'], text) := rfl
  simp [fractionPattern, optionally, all, split?, dot, none]

theorem fractionPattern_of_ne {c : Char} (noDot : c ≠ '.') (rest : List Char) :
    fractionPattern.split? (c :: rest) = some ([], c :: rest) := by
  simp [fractionPattern, optionally, all, split?, is, noDot]

/-- A duration has an optional sign, digits, an optional fraction and its unit. -/
theorem durationPattern_split?_iff {text lexeme rest : List Char} :
    durationPattern.split? text = some (lexeme, rest) ↔
      ∃ sign digits fraction unsigned behind,
        (optionally (is '-')).split? text = some (sign, unsigned) ∧
        number.split? unsigned = some (digits, behind) ∧
        fractionPattern.split? behind = some (fraction, 's' :: rest) ∧
        lexeme = sign ++ (digits ++ (fraction ++ ['s'])) := by
  have shape : durationPattern = seq (optionally (is '-')) (seq number (seq fractionPattern
      (seq (is 's') .empty))) := rfl
  simp only [shape, split?_seq_eq_some_iff, is_split?_eq_some_iff]
  constructor
  · rintro ⟨sign, unsigned, _, signFound, ⟨digits, behind, _, digitsFound,
      ⟨fraction, _, _, fractionFound, ⟨_, _, _, ⟨rfl, rfl⟩, nothing, rfl⟩, rfl⟩, rfl⟩, rfl⟩
    obtain ⟨rfl, rfl⟩ : [] = _ ∧ _ = rest := by simpa [split?] using nothing
    exact ⟨sign, digits, fraction, unsigned, behind, signFound, digitsFound, fractionFound, by simp⟩
  · rintro ⟨sign, digits, fraction, unsigned, behind, signFound, digitsFound, fractionFound, rfl⟩
    exact ⟨sign, unsigned, _, signFound, ⟨digits, behind, _, digitsFound,
      ⟨fraction, _, _, fractionFound, ⟨_, _, [], ⟨rfl, rfl⟩, rfl, rfl⟩, rfl⟩, rfl⟩, rfl⟩

/-- What makes digits a number with a fraction or an exponent, and what is left behind it. -/
inductive FloatTail : List Char → List Char → Prop where
  | fraction {text digits behind exponent rest : List Char} :
      number.split? text = some (digits, behind) →
      (optionally exponentPattern).split? behind = some (exponent, rest) →
      FloatTail ('.' :: text) rest
  | exponent {behind exponent rest : List Char} :
      exponentPattern.split? behind = some (exponent, rest) → FloatTail behind rest

theorem exponentPattern_dot (rest : List Char) : exponentPattern.split? ('.' :: rest) = none :=
  split?_eq_none_of_refusesFirst (by decide) rest

/-- A floating-point number has an optional sign, digits, and a fraction, an exponent or both. -/
theorem floatPattern_split?_iff {text rest : List Char} :
    (∃ lexeme, floatPattern.split? text = some (lexeme, rest)) ↔
      ∃ sign unsigned digits behind,
        (optionally (is '-')).split? text = some (sign, unsigned) ∧
        number.split? unsigned = some (digits, behind) ∧ FloatTail behind rest := by
  have shape : floatPattern = seq (optionally (is '-')) (choice
      (seq number (seq (is '.') (seq number (seq (optionally exponentPattern) .empty))))
      (seq number exponentPattern)) := rfl
  simp only [shape, split?_seq_eq_some_iff]
  constructor
  · rintro ⟨_, sign, unsigned, _, signFound, found, -⟩
    rcases split?_choice found with taken | taken
    · simp only [split?_seq_eq_some_iff, is_split?_eq_some_iff] at taken
      obtain ⟨digits, _, _, digitsFound, ⟨_, _, _, ⟨rfl, -⟩, ⟨fraction, more, _, fractionFound,
        ⟨exponent, _, _, exponentFound, nothing, -⟩, -⟩, -⟩, -⟩ := taken
      obtain ⟨-, rfl⟩ : _ ∧ _ = rest := by simpa [split?] using nothing
      exact ⟨sign, unsigned, digits, _, signFound, digitsFound,
        .fraction fractionFound exponentFound⟩
    · obtain ⟨digits, behind, exponent, digitsFound, exponentFound, -⟩ :=
        split?_seq_eq_some_iff.mp taken
      exact ⟨sign, unsigned, digits, behind, signFound, digitsFound, .exponent exponentFound⟩
  · rintro ⟨sign, unsigned, digits, behind, signFound, digitsFound, tail⟩
    cases tail with
    | @fraction text fraction more exponent _ fractionFound exponentFound =>
      have dot : (is '.').split? ('.' :: text) = some (['.'], text) := rfl
      exact ⟨_, sign, unsigned, digits ++ '.' :: (fraction ++ exponent), signFound,
        by simp [split?, digitsFound, dot, fractionFound, exponentFound], rfl⟩
    | @exponent _ exponent _ exponentFound =>
      have noDot : (is '.').split? behind = none := by
        cases behind with
        | nil => rfl
        | cons c text =>
          by_cases isDot : c = '.'
          · subst isDot
            cases (exponentPattern_dot text).symm.trans exponentFound
          · simp [is, split?, isDot]
      exact ⟨_, sign, unsigned, digits ++ exponent, signFound,
        by simp [split?, digitsFound, noDot, exponentFound], rfl⟩

/-- What may stand behind the digits of a fraction: the unit of a duration, or an exponent or
nothing, and then the end of the word. -/
inductive EndsFraction : List Char → Prop where
  | unit {rest : List Char} : endsWord rest = true → EndsFraction ('s' :: rest)
  | exponent {behind exponent rest : List Char} :
      (optionally exponentPattern).split? behind = some (exponent, rest) → endsWord rest = true →
      EndsFraction behind

/-- A text starts with digits that could be the fraction of a number. -/
def StartsFraction (text : List Char) : Prop :=
  ∃ digits behind, number.split? text = some (digits, behind) ∧ EndsFraction behind

theorem exponentPattern_split?_of_endsWord {text : List Char} (ends : endsWord text = true) :
    (optionally exponentPattern).split? text = some ([], text) := by
  have refuse : ∀ c ∈ " \t\r\n()=<>!:.,".toList, exponentPattern.refusesFirst c = true :=
    List.all_iff_forall_prop.mp (by decide)
  cases text with
  | nil => rfl
  | cons c rest =>
    have listed : c ∈ " \t\r\n()=<>!:.,".toList := List.contains_iff_mem.mp ends
    have none := split?_eq_none_of_refusesFirst (refuse c listed) rest
    simp [optionally, split?, none]

/-- The end of a word ends a fraction. -/
theorem EndsFraction.of_endsWord {text : List Char} (ends : endsWord text = true) :
    EndsFraction text :=
  .exponent (exponentPattern_split?_of_endsWord ends) ends

/-- A whole number before a dot goes on as another number exactly if a fraction follows. -/
theorem fraction_lexeme?_iff {word : List Char} (isInteger : IsInteger word) (rest : List Char) :
    ((∃ lexeme, durationClass.lexeme? (word ++ '.' :: rest) = some lexeme) ∨
      ∃ lexeme, floatClass.lexeme? (word ++ '.' :: rest) = some lexeme) ↔
      StartsFraction rest := by
  obtain ⟨sign, digits, rfl, isSign, nonempty, areDigits⟩ := isInteger_iff.mp isInteger
  have signFound := sign_split? isSign (startsWithDigit_append nonempty areDigits ('.' :: rest))
  have whole : number.split? (digits ++ '.' :: rest) = some (digits, '.' :: rest) :=
    number_split?_eq_some_iff.mpr ⟨rfl, nonempty, areDigits, rfl⟩
  rw [List.append_assoc]
  constructor
  · rintro (⟨lexeme, read⟩ | ⟨lexeme, read⟩)
    · obtain ⟨last, found, ends⟩ := lexeme?_eq_some_iff.mp read
      obtain ⟨_, _, fraction, _, _, signAgain, digitsAgain, fractionFound, -⟩ :=
        durationPattern_split?_iff.mp found
      obtain ⟨rfl, rfl⟩ := Prod.mk.inj (Option.some.inj (signFound.symm.trans signAgain))
      obtain ⟨rfl, rfl⟩ := Prod.mk.inj (Option.some.inj (whole.symm.trans digitsAgain))
      cases numbered : number.split? rest with
      | none =>
        rw [fractionPattern_dot_of_none numbered] at fractionFound
        simp at fractionFound
      | some pair =>
        obtain ⟨taken, behind⟩ := pair
        rw [fractionPattern_dot_of_number numbered] at fractionFound
        obtain ⟨-, rfl⟩ := Prod.mk.inj (Option.some.inj fractionFound)
        exact ⟨taken, _, numbered, .unit (ends rfl)⟩
    · obtain ⟨last, found, ends⟩ := lexeme?_eq_some_iff.mp read
      obtain ⟨_, _, _, _, signAgain, digitsAgain, tail⟩ := floatPattern_split?_iff.mp ⟨_, found⟩
      obtain ⟨rfl, rfl⟩ := Prod.mk.inj (Option.some.inj (signFound.symm.trans signAgain))
      obtain ⟨rfl, rfl⟩ := Prod.mk.inj (Option.some.inj (whole.symm.trans digitsAgain))
      cases tail with
      | fraction numbered exponentFound =>
        exact ⟨_, _, numbered, .exponent exponentFound (ends rfl)⟩
      | exponent exponentFound => cases (exponentPattern_dot rest).symm.trans exponentFound
  · rintro ⟨taken, behind, numbered, endsFraction⟩
    cases endsFraction with
    | unit ends =>
      have found := durationPattern_split?_iff.mpr
        ⟨sign, digits, _, _, _, signFound, whole, fractionPattern_dot_of_number numbered, rfl⟩
      exact .inl ⟨_, lexeme?_eq_some_iff.mpr ⟨_, found, fun _ => ends⟩⟩
    | exponent exponentFound ends =>
      obtain ⟨lexeme, found⟩ := floatPattern_split?_iff.mpr
        ⟨sign, _, digits, _, signFound, whole, .fraction numbered exponentFound⟩
      exact .inr ⟨_, lexeme?_eq_some_iff.mpr ⟨_, found, fun _ => ends⟩⟩

/-- Exactly so many digits. -/
theorem digits_split?_eq_some {count : Nat} {text head rest : List Char}
    (found : (digits count).split? text = some (head, rest)) :
    head.length = count ∧ ∀ c ∈ head, c.isDigit = true := by
  induction count generalizing text head with
  | zero =>
    obtain ⟨rfl, -⟩ : [] = head ∧ text = rest := by simpa [digits, all, split?] using found
    simp
  | succ count inductionHypothesis =>
    have shape : digits (count + 1) = seq digit (digits count) := rfl
    rw [shape] at found
    obtain ⟨left, middle, right, first, others, rfl⟩ := split?_seq_eq_some_iff.mp found
    obtain ⟨length, areDigits⟩ := inductionHypothesis others
    cases text with
    | nil => cases first
    | cons c tail =>
      obtain ⟨isDigit, rfl, -⟩ : c.isDigit = true ∧ [c] = left ∧ tail = middle := by
        simpa [digit, split?] using first
      exact ⟨by simp [length], List.forall_mem_cons.mpr ⟨isDigit, areDigits⟩⟩

/-- A date starts with a year, and a hyphen ends its digits. -/
theorem number_of_datetime {text head rest : List Char}
    (found : datetimePattern.split? text = some (head, rest)) :
    ∃ year behind, number.split? text = some (year, '-' :: behind) := by
  obtain ⟨year, middle, _, yearFound, further, -⟩ := split?_seq_eq_some_iff.mp found
  obtain ⟨_, behind, _, hyphen, -, -⟩ := split?_seq_eq_some_iff.mp further
  obtain ⟨rfl, -⟩ := is_split?_eq_some_iff.mp hyphen
  obtain ⟨length, areDigits⟩ := digits_split?_eq_some yearFound
  have nonempty : year ≠ [] := by
    rintro rfl
    cases length
  exact ⟨year, behind, number_split?_eq_some_iff.mpr
    ⟨(split?_append yearFound).symm, nonempty, areDigits, rfl⟩⟩

/-- A hyphen ends no fraction. -/
theorem not_endsFraction_hyphen (rest : List Char) : ¬ EndsFraction ('-' :: rest) := by
  intro ends
  generalize text : '-' :: rest = behind at ends
  cases ends with
  | unit _ => cases text
  | exponent exponentFound ends =>
    subst text
    have none : exponentPattern.split? ('-' :: rest) = none :=
      split?_eq_none_of_refusesFirst (by decide) rest
    obtain ⟨-, rfl⟩ : _ ∧ '-' :: rest = _ := by simpa [optionally, split?, none] using exponentFound
    cases ends

/-- Where no minus sign stands, the optional sign is none. -/
theorem sign_split?_of_unsigned {text sign unsigned : List Char}
    (noMinus : startsNegation false text = false)
    (found : (optionally (is '-')).split? text = some (sign, unsigned)) : unsigned = text := by
  have whole := split?_append found
  rcases isSign_of_split? found with rfl | rfl
  · exact whole
  · subst whole
    cases unsigned <;> cases noMinus

namespace StartsFraction

variable {text lexeme : List Char}

theorem of_duration (noMinus : startsNegation false text = false)
    (read : durationClass.lexeme? text = some lexeme) : StartsFraction text := by
  obtain ⟨last, split, ends⟩ := lexeme?_eq_some_iff.mp read
  obtain ⟨_, digits, fraction, _, behind, signFound, digitsFound, fractionFound, -⟩ :=
    durationPattern_split?_iff.mp split
  obtain rfl := sign_split?_of_unsigned noMinus signFound
  refine ⟨digits, behind, digitsFound, ?_⟩
  cases behind with
  | nil => cases fractionFound
  | cons c rest =>
    by_cases dot : c = '.'
    · subst dot
      exact .of_endsWord rfl
    · rw [fractionPattern_of_ne dot] at fractionFound
      obtain ⟨-, rfl, rfl⟩ : fraction = [] ∧ c = 's' ∧ rest = last := by
        simpa using fractionFound
      exact .unit (ends rfl)

theorem of_float (noMinus : startsNegation false text = false)
    (read : floatClass.lexeme? text = some lexeme) : StartsFraction text := by
  obtain ⟨last, split, ends⟩ := lexeme?_eq_some_iff.mp read
  obtain ⟨_, _, digits, behind, signFound, digitsFound, tail⟩ :=
    floatPattern_split?_iff.mp ⟨_, split⟩
  obtain rfl := sign_split?_of_unsigned noMinus signFound
  refine ⟨digits, behind, digitsFound, ?_⟩
  cases tail with
  | fraction _ _ => exact .of_endsWord rfl
  | @exponent _ exponent _ exponentFound =>
    have taken : (optionally exponentPattern).split? behind = some (exponent, last) := by
      simp [optionally, split?, exponentFound]
    exact .exponent taken (ends rfl)

theorem of_integer (noMinus : startsNegation false text = false)
    (read : integerClass.lexeme? text = some lexeme) : StartsFraction text := by
  obtain ⟨last, split, ends⟩ := lexeme?_eq_some_iff.mp read
  obtain ⟨_, _, digits, signFound, digitsFound, -⟩ := split?_seq_eq_some_iff.mp split
  obtain rfl := sign_split?_of_unsigned noMinus signFound
  exact ⟨digits, last, digitsFound, .of_endsWord (ends rfl)⟩

/-- What could be a fraction is a number of some class. -/
theorem exists_lexeme? (starts : StartsFraction text) :
    ∃ lexicalClass ∈ numberClasses, ∃ lexeme, lexicalClass.lexeme? text = some lexeme := by
  obtain ⟨digits, behind, numbered, endsFraction⟩ := starts
  obtain ⟨rfl, nonempty, areDigits, -⟩ := number_split?_eq_some_iff.mp numbered
  have signFound : (optionally (is '-')).split? (digits ++ behind) = some ([], digits ++ behind) :=
    sign_split? (.inl rfl) (startsWithDigit_append nonempty areDigits behind)
  cases endsFraction with
  | @unit rest ends =>
    have noFraction := fractionPattern_of_ne (show 's' ≠ '.' by decide) rest
    have found := durationPattern_split?_iff.mpr
      ⟨[], digits, [], _, _, signFound, numbered, noFraction, rfl⟩
    exact ⟨durationClass, by simp [numberClasses], _,
      lexeme?_eq_some_iff.mpr ⟨_, found, fun _ => ends⟩⟩
  | @exponent _ exponent rest exponentFound ends =>
    rcases split?_choice exponentFound with taken | nothing
    · obtain ⟨lexeme, found⟩ := floatPattern_split?_iff.mpr
        ⟨[], _, digits, behind, signFound, numbered, .exponent taken⟩
      exact ⟨floatClass, by simp [numberClasses], _,
        lexeme?_eq_some_iff.mpr ⟨_, found, fun _ => ends⟩⟩
    · obtain ⟨-, rfl⟩ : [] = exponent ∧ behind = rest := by simpa [split?] using nothing
      have found : integerPattern.split? (digits ++ behind) = some ([] ++ digits, behind) :=
        split?_seq_eq_some_iff.mpr ⟨[], _, digits, signFound, numbered, rfl⟩
      exact ⟨integerClass, by simp [numberClasses], _,
        lexeme?_eq_some_iff.mpr ⟨_, found, fun _ => ends⟩⟩

/-- What could be a fraction is no date. -/
theorem datetime_lexeme? (starts : StartsFraction text) : datetimeClass.lexeme? text = none := by
  cases read : datetimeClass.lexeme? text with
  | none => rfl
  | some lexeme =>
    obtain ⟨digits, behind, numbered, endsFraction⟩ := starts
    obtain ⟨rest, split, -⟩ := lexeme?_eq_some_iff.mp read
    obtain ⟨year, hyphen, numberedAgain⟩ := number_of_datetime split
    obtain ⟨-, rfl⟩ := Prod.mk.inj (Option.some.inj (numbered.symm.trans numberedAgain))
    exact absurd endsFraction (not_endsFraction_hyphen hyphen)

end StartsFraction

/-- A text starts with a number, as a token of its own, exactly if it starts with what could be the
fraction of a number. -/
theorem exists_numberToken_iff {text : List Char} :
    (∃ kind lexeme, nextToken? false text = some (kind, lexeme) ∧ kind ∈ numberKinds) ↔
      StartsFraction text := by
  constructor
  · rintro ⟨kind, lexeme, found, isNumber⟩
    obtain ⟨lexicalClass, listed, rfl⟩ := List.mem_map.mp isNumber
    obtain ⟨noMinus, read⟩ := lexeme?_of_nextToken? found (numberClasses_subset listed) rfl
    simp only [numberClasses, List.mem_cons, List.not_mem_nil, or_false] at listed
    rcases listed with rfl | rfl | rfl
    · exact .of_duration noMinus read
    · exact .of_float noMinus read
    · exact .of_integer noMinus read
  · intro starts
    obtain ⟨lexicalClass, listed, lexeme, read⟩ := starts.exists_lexeme?
    have noDate := starts.datetime_lexeme?
    obtain ⟨digits, behind, numbered, -⟩ := starts
    obtain ⟨rfl, nonempty, areDigits, -⟩ := number_split?_eq_some_iff.mp numbered
    obtain ⟨c, rest, rfl⟩ := List.exists_cons_of_ne_nil nonempty
    have isDigit := areDigits c (by simp)
    have noMinus : c ≠ '-' := by
      rintro rfl
      cases isDigit
    rw [List.cons_append] at read noDate ⊢
    rw [nextToken?_numeric (List.mem_cons_of_mem _ (mem_asciiDigits isDigit))
      (startsNegation_of_ne noMinus _ _), numericTable_eq, List.findSome?_cons, noDate,
      List.findSome?_append]
    cases found : numberClasses.findSome? fun lexicalClass =>
        (lexicalClass.lexeme? (c :: (rest ++ behind))).map (lexicalClass.kind, ·) with
    | none =>
      have missing := List.findSome?_eq_none_iff.mp found lexicalClass listed
      rw [read] at missing
      cases missing
    | some token =>
      obtain ⟨chosen, chosenListed, taken⟩ := List.exists_of_findSome?_eq_some found
      obtain ⟨other, -, rfl⟩ := Option.map_eq_some_iff.mp taken
      exact ⟨chosen.kind, other, rfl, List.mem_map_of_mem chosenListed⟩

namespace IsInteger

variable {word : List Char}

/-- A whole number starts with a sign or a digit. -/
theorem exists_first (isInteger : IsInteger word) :
    ∃ c rest, word = c :: rest ∧ c ∈ '-' :: asciiDigits := by
  obtain ⟨sign, digits, rfl, rfl | rfl, nonempty, areDigits⟩ := isInteger_iff.mp isInteger
  · obtain ⟨c, rest, rfl⟩ := List.exists_cons_of_ne_nil nonempty
    exact ⟨c, rest, rfl, List.mem_cons_of_mem _ (mem_asciiDigits (areDigits c (by simp)))⟩
  · exact ⟨'-', digits, rfl, by simp⟩

/-- The sign and the digits of a whole number are taken as such before what is no digit. -/
theorem split? (isInteger : IsInteger word) {more : List Char}
    (noDigit : startsWithDigit more = false) :
    integerPattern.split? (word ++ more) = some (word, more) := by
  obtain ⟨sign, digits, rfl, isSign, nonempty, areDigits⟩ := isInteger_iff.mp isInteger
  have signFound := sign_split? isSign (startsWithDigit_append nonempty areDigits more)
  have digitsFound : number.split? (digits ++ more) = some (digits, more) :=
    number_split?_eq_some_iff.mpr ⟨rfl, nonempty, areDigits, noDigit⟩
  rw [List.append_assoc]
  exact split?_seq_eq_some_iff.mpr ⟨sign, _, digits, signFound, digitsFound, rfl⟩

/-- A whole number is no date. -/
theorem datetime_lexeme? (isInteger : IsInteger word) {more : List Char}
    (noDigit : startsWithDigit more = false) (noHyphen : more.head? ≠ some '-') :
    datetimeClass.lexeme? (word ++ more) = none := by
  obtain ⟨sign, digits, rfl, isSign, nonempty, areDigits⟩ := isInteger_iff.mp isInteger
  refine lexeme?_eq_none ?_
  rcases isSign with rfl | rfl
  · have digitsFound : number.split? (digits ++ more) = some (digits, more) :=
      number_split?_eq_some_iff.mpr ⟨rfl, nonempty, areDigits, noDigit⟩
    cases found : datetimePattern.split? (digits ++ more) with
    | none => exact found
    | some pair =>
      obtain ⟨year, behind, digitsAgain⟩ := number_of_datetime found
      obtain ⟨-, rfl⟩ := Prod.mk.inj (Option.some.inj (digitsFound.symm.trans digitsAgain))
      exact absurd rfl noHyphen
  · exact split?_eq_none_of_refusesFirst (by decide) _

/-- A whole number is no number of another class. -/
theorem number_lexeme? (isInteger : IsInteger word) :
    durationClass.lexeme? word = none ∧ floatClass.lexeme? word = none := by
  obtain ⟨sign, digits, rfl, isSign, nonempty, areDigits⟩ := isInteger_iff.mp isInteger
  have first : startsWithDigit digits = true := by
    simpa using startsWithDigit_append nonempty areDigits []
  have signFound := sign_split? isSign first
  have digitsFound : number.split? digits = some (digits, []) :=
    number_split?_eq_some_iff.mpr ⟨by simp, nonempty, areDigits, rfl⟩
  constructor
  · refine Option.eq_none_iff_forall_ne_some.mpr fun lexeme read => ?_
    obtain ⟨last, found, -⟩ := lexeme?_eq_some_iff.mp read
    obtain ⟨_, _, fraction, _, _, signAgain, digitsAgain, fractionFound, -⟩ :=
      durationPattern_split?_iff.mp found
    obtain ⟨rfl, rfl⟩ := Prod.mk.inj (Option.some.inj (signFound.symm.trans signAgain))
    obtain ⟨rfl, rfl⟩ := Prod.mk.inj (Option.some.inj (digitsFound.symm.trans digitsAgain))
    cases fractionFound
  · refine Option.eq_none_iff_forall_ne_some.mpr fun lexeme read => ?_
    obtain ⟨last, found, -⟩ := lexeme?_eq_some_iff.mp read
    obtain ⟨_, _, _, _, signAgain, digitsAgain, tail⟩ := floatPattern_split?_iff.mp ⟨_, found⟩
    obtain ⟨rfl, rfl⟩ := Prod.mk.inj (Option.some.inj (signFound.symm.trans signAgain))
    obtain ⟨rfl, rfl⟩ := Prod.mk.inj (Option.some.inj (digitsFound.symm.trans digitsAgain))
    cases tail with
    | exponent exponentFound => cases exponentFound

end IsInteger

/-- Behind the sign and the digits of a whole number, what follows decides between the classes of
numbers. -/
theorem nextToken?_number {after : Bool} {word more : List Char} (isInteger : IsInteger word)
    (unsigned : startsNegation after (word ++ more) = false)
    (noDigit : startsWithDigit more = false) (noHyphen : more.head? ≠ some '-') :
    nextToken? after (word ++ more) =
      (numberClasses ++ LexicalClass.table.drop 13).findSome? fun lexicalClass =>
        (lexicalClass.lexeme? (word ++ more)).map (lexicalClass.kind, ·) := by
  have noDate := isInteger.datetime_lexeme? noDigit noHyphen
  obtain ⟨c, rest, rfl, numeric⟩ := isInteger.exists_first
  rw [List.cons_append] at unsigned noDate ⊢
  rw [nextToken?_numeric numeric unsigned, numericTable_eq, List.findSome?_cons, noDate]
  rfl

/-- At a whole number, a duration is read if there is one, or else a floating-point number, or else
the whole number itself. -/
theorem nextToken?_of_isInteger {after : Bool} {word more : List Char} (isInteger : IsInteger word)
    (unsigned : startsNegation after (word ++ more) = false) (ends : endsWord more = true)
    (noDigit : startsWithDigit more = false) (noHyphen : more.head? ≠ some '-') :
    nextToken? after (word ++ more) = some
      (((durationClass.lexeme? (word ++ more)).map (TokenKind.duration, ·)).getD
        (((floatClass.lexeme? (word ++ more)).map (TokenKind.float, ·)).getD
          (.integer, word))) := by
  have whole : integerClass.lexeme? (word ++ more) = some word :=
    lexeme?_eq_some_iff.mpr ⟨more, isInteger.split? noDigit, fun _ => ends⟩
  rw [nextToken?_number isInteger unsigned noDigit noHyphen]
  simp only [numberClasses, List.cons_append, List.findSome?_cons, whole]
  cases durationClass.lexeme? (word ++ more) with
  | some lexeme => rfl
  | none =>
    cases floatClass.lexeme? (word ++ more) with
    | some lexeme => rfl
    | none => rfl

/-- A whole number that stands alone is a token. -/
theorem IsInteger.nextToken?_eq {after : Bool} {word : List Char} (isInteger : IsInteger word)
    (unsigned : startsNegation after word = false) :
    nextToken? after word = some (.integer, word) := by
  obtain ⟨noDuration, noFloat⟩ := isInteger.number_lexeme?
  have alone := nextToken?_of_isInteger isInteger
    (by simpa using unsigned) (show endsWord [] = true from rfl) rfl (by simp)
  simpa [noDuration, noFloat] using alone

/-- A whole number directly before a dot is read as such exactly if no number follows the dot. -/
theorem nextToken?_integer_dot {after : Bool} {word : List Char} (isInteger : IsInteger word)
    (unsigned : startsNegation after word = false) (rest : List Char) :
    nextToken? after (word ++ '.' :: rest) = some (.integer, word) ↔ ¬ StartsFraction rest := by
  have unsignedDot : startsNegation after (word ++ '.' :: rest) = false := by
    obtain ⟨c, tail, rfl, -⟩ := isInteger.exists_first
    rwa [startsNegation_append (show '.'.isDigit = false by decide)]
  rw [← fraction_lexeme?_iff isInteger,
    nextToken?_of_isInteger isInteger unsignedDot rfl rfl (by simp)]
  cases durationClass.lexeme? (word ++ '.' :: rest) with
  | some lexeme => simp
  | none =>
    cases floatClass.lexeme? (word ++ '.' :: rest) with
    | some lexeme => simp
    | none => simp

end Fractions

end FilterQuery
