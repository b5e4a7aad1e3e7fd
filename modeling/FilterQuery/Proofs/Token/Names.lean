import FilterQuery.Proofs.Token.Words
import FilterQuery.Text.Blank
import Mathlib.Data.List.TakeWhile

/-!
# Names, strings and whole numbers

Three sorts of words that stand for themselves: names, which are texts of letters, digits and
underscores; characters between quotation marks, none of which is escaped; and digits, with a sign
behind a comparator. Each is one token of its kind.
-/

namespace FilterQuery

open Pattern LexicalClass

section Names

/-- Whether a character may start a name. -/
def isNameStart (c : Char) : Bool := c.isAlpha || c == '_'

/-- Whether a character may stand in a name. -/
def isNamePart (c : Char) : Bool := c.isAlphanum || c == '_'

/-- Whether a text is a name: letters, digits and underscores that do not start with a digit. -/
def isName (text : String) : Bool :=
  match text.toList with
  | [] => false
  | first :: rest => isNameStart first && rest.all isNamePart

theorem isNamePart_of_isNameStart {c : Char} (start : isNameStart c = true) :
    isNamePart c = true := by
  simp only [isNameStart, isNamePart, Char.isAlphanum, Bool.or_eq_true] at start ⊢
  rcases start with letter | underscore
  · exact .inl (.inl letter)
  · exact .inr underscore

/-- Names are written in ASCII. -/
theorem toNat_lt_of_isNamePart {c : Char} (part : isNamePart c = true) : c.toNat < 128 := by
  -- Each class of characters has a last one, which is ASCII.
  have below {last : UInt32} (bounded : c.val ≤ last) (ascii : last.toNat < 128) :
      c.toNat < 128 :=
    Nat.lt_of_le_of_lt (UInt32.le_iff_toNat_le.mp bounded) ascii
  rcases Bool.or_eq_true_iff.mp part with alphanumeric | underscore
  · rcases Bool.or_eq_true_iff.mp alphanumeric with letter | digit
    · rcases Bool.or_eq_true_iff.mp letter with upper | lower
      · exact below (of_decide_eq_true upper).2 (by decide)
      · exact below (of_decide_eq_true (Bool.and_eq_true_iff.mp lower).2) (by decide)
    · exact Nat.lt_of_le_of_lt (Char.isDigit_iff_toNat.mp digit).2 (by decide)
  · rw [beq_iff_eq.mp underscore]
    decide

/-- The characters that may stand in a name. -/
def nameCharacters : List Char := ((List.range 128).map Char.ofNat).filter isNamePart

theorem mem_nameCharacters {c : Char} (part : isNamePart c = true) : c ∈ nameCharacters := by
  refine List.mem_filter.mpr ⟨List.mem_map.mpr ⟨c.toNat, ?_, Char.ofNat_toNat c⟩, part⟩
  exact List.mem_range.mpr (toNat_lt_of_isNamePart part)

/-- No word ends inside of a name. -/
theorem not_isReserved_of_isNamePart {c : Char} (part : isNamePart c = true) :
    isReserved c = false ∧ isDelimiter c = false := by
  have characters : ∀ c ∈ nameCharacters, isReserved c = false ∧ isDelimiter c = false :=
    List.all_iff_forall_prop.mp (by decide +kernel)
  exact characters c (mem_nameCharacters part)

/-- No character of a name is blank. -/
theorem not_isSpace_of_isNamePart {c : Char} (part : isNamePart c = true) :
    Text.isSpace c = false := by
  have characters : ∀ c ∈ nameCharacters, Text.isSpace c = false :=
    List.all_iff_forall_prop.mp (by decide +kernel)
  exact characters c (mem_nameCharacters part)

/-- A name starts no token other than a text and the words that look like names. -/
theorem refusesFirst_of_isNameStart {c : Char} (start : isNameStart c = true) :
    c ∉ '-' :: asciiDigits ∧ ∀ lexicalClass ∈ LexicalClass.table.take 14,
      lexicalClass.pattern.refusesFirst c = true ∨ lexicalClass.kind ∈ numberKinds ∨
        lexicalClass.kind ∈ [.and, .or, .not, .boolean] := by
  have characters : ∀ c ∈ nameCharacters.filter isNameStart,
      c ∉ '-' :: asciiDigits ∧ ∀ lexicalClass ∈ LexicalClass.table.take 14,
        lexicalClass.pattern.refusesFirst c = true ∨ lexicalClass.kind ∈ numberKinds ∨
          lexicalClass.kind ∈ [.and, .or, .not, .boolean] :=
    List.all_iff_forall_prop.mp (by decide +kernel)
  exact characters c
    (List.mem_filter.mpr ⟨mem_nameCharacters (isNamePart_of_isNameStart start), start⟩)

/-- The words that look like names and are none. -/
def reservedWords : List String := ["AND", "OR", "NOT", "true", "false"]

/-- A class of words that look like names has no other names. -/
theorem lexeme?_eq_none_of_name {lexicalClass : LexicalClass}
    (listed : lexicalClass ∈ LexicalClass.table)
    (wordClass : lexicalClass.kind ∈ [.and, .or, .not, .boolean]) {text : String}
    (parts : ∀ c ∈ text.toList, isNamePart c = true) (unreserved : text ∉ reservedWords) :
    lexicalClass.lexeme? text.toList = none := by
  have classes : ∀ lexicalClass ∈ LexicalClass.table,
      lexicalClass.kind ∈ [.and, .or, .not, .boolean] → lexicalClass.delimited = true ∧
        lexicalClass.kind.spellings ≠ [] ∧ lexicalClass.kind.spellings ⊆ reservedWords := by decide
  obtain ⟨delimited, few, reserved⟩ := classes lexicalClass listed wordClass
  refine Option.eq_none_iff_forall_ne_some.mpr fun lexeme read => ?_
  obtain ⟨rest, taken, ends⟩ := lexeme?_eq_some_iff.mp read
  have whole := split?_append taken
  -- What is left behind the word is empty: a name holds no delimiter.
  have nothing : rest = [] := by
    cases rest with
    | nil => rfl
    | cons c tail =>
      have delimiter : isDelimiter c = true := ends delimited
      have part : isNamePart c = true := parts c (by simp [← whole])
      cases (not_isReserved_of_isNamePart part).2.symm.trans delimiter
  rw [nothing, List.append_nil] at whole
  have spelled := mem_spellings_of_split? lexicalClass listed few taken
  rw [whole, String.ofList_toList] at spelled
  exact unreserved (reserved spelled)

/-- The pattern of texts takes a name as a whole. -/
theorem textPattern_split?_of_name {first : Char} {rest : List Char} (noMinus : first ≠ '-')
    (parts : ∀ c ∈ first :: rest, isNamePart c = true) :
    textPattern.split? (first :: rest) = some (first :: rest, []) := by
  obtain ⟨firstPart, restParts⟩ := List.forall_mem_cons.mp parts
  have firstFree := (not_isReserved_of_isNamePart firstPart).1
  have restFree : ∀ c ∈ rest, (!isReserved c) = true := by
    intro c listed
    simp [(not_isReserved_of_isNamePart (restParts c listed)).1]
  refine split?_seq_eq_some_iff.mpr ⟨[first], rest, rest, ?_, ?_, rfl⟩
  · simp [split?, firstFree, noMinus]
  · rw [split?_many_char, List.takeWhile_eq_self_iff.mpr restFree,
      List.dropWhile_eq_nil_iff.mpr restFree]

/-- The class of texts. -/
def textClass : LexicalClass := ⟨.text, textPattern, false⟩

/-- A name is a word. -/
theorem isWord_of_isName {text : String} (name : isName text = true)
    (unreserved : text ∉ reservedWords) (after : Bool) : IsWord after .text text.toList := by
  unfold isName at name
  split at name
  · cases name
  · next first rest characters =>
    obtain ⟨start, parts⟩ := (Bool.and_eq_true _ _).mp name
    have allParts : ∀ c ∈ text.toList, isNamePart c = true := by
      rw [characters]
      exact List.forall_mem_cons.mpr
        ⟨isNamePart_of_isNameStart start, List.all_eq_true.mp parts⟩
    obtain ⟨notNumeric, others⟩ := refusesFirst_of_isNameStart start
    have noMinus : first ≠ '-' := by
      rintro rfl
      exact notNumeric List.mem_cons_self
    have order : LexicalClass.table =
        LexicalClass.table.take 14 ++ textClass :: LexicalClass.table.drop 15 := rfl
    have taken : textPattern.split? text.toList = some (text.toList, []) := by
      rw [characters] at allParts ⊢
      exact textPattern_split?_of_name noMinus allParts
    refine nextToken?_eq_some_iff.mpr (.inr ⟨?_, _, _, _, order, rfl,
      lexeme?_eq_some_iff.mpr ⟨[], taken, fun _ => rfl⟩, fun other listed => ?_⟩)
    · rw [characters]
      exact startsNegation_of_ne noMinus after rest
    · have inTable := List.mem_of_mem_take listed
      rcases others other listed with refuses | isNumber | wordClass
      · rw [characters]
        exact lexeme?_eq_none (split?_eq_none_of_refusesFirst refuses rest)
      · rw [characters]
        exact lexeme?_eq_none_of_numberClass inTable isNumber notNumeric rest
      · exact lexeme?_eq_none_of_name inTable wordClass allParts unreserved

end Names

section Strings

/-- Whether a character may stand in a string without an escape. -/
def isPlain (c : Char) : Bool := c != '"' && c != '\\'

theorem splitRepeated_stringPiece_plain {content rest : List Char}
    (plain : ∀ c ∈ content, isPlain c = true) {limit : Nat} (enough : content.length ≤ limit) :
    splitRepeated stringPiece.split? limit (content ++ '"' :: rest) = (content, '"' :: rest) := by
  induction content generalizing limit with
  | nil =>
    refine splitRepeated_of_no_piece ?_ limit
    intro c head last taken
    cases taken
  | cons c content inductionHypothesis =>
    obtain ⟨plainFirst, plainRest⟩ := List.forall_mem_cons.mp plain
    obtain ⟨noMark, noEscape⟩ : c ≠ '"' ∧ c ≠ '\\' := by simpa [isPlain] using plainFirst
    obtain ⟨limit, rfl⟩ : ∃ smaller, limit = smaller + 1 := by
      exact ⟨limit - 1, by simp at enough; omega⟩
    have piece : stringPiece.split? (c :: (content ++ '"' :: rest)) =
        some ([c], content ++ '"' :: rest) := stringPiece_plain noMark noEscape _
    rw [List.cons_append, splitRepeated_of_piece piece,
      inductionHypothesis plainRest (by simpa using enough)]
    rfl

/-- Plain characters between quotation marks are a word. -/
theorem isWord_string {content : List Char} (plain : ∀ c ∈ content, isPlain c = true)
    (after : Bool) : IsWord after .string ('"' :: (content ++ ['"'])) := by
  refine nextToken?_string_iff.mpr (lexeme?_eq_some_iff.mpr ⟨[], ?_, fun _ => rfl⟩)
  refine stringPattern_split?_iff.mpr ⟨content ++ ['"'], content, rfl, ?_, rfl⟩
  exact splitRepeated_stringPiece_plain plain (by simp)

end Strings

section Numbers

/-- A whole number without a sign is a word, and one with a sign is a word behind a comparator. -/
theorem isWord_integer {sign digits : List Char} {after : Bool}
    (signed : sign = [] ∨ sign = ['-'] ∧ after = true) (nonempty : digits ≠ [])
    (areDigits : ∀ c ∈ digits, c.isDigit = true) : IsWord after .integer (sign ++ digits) := by
  obtain ⟨c, rest, rfl⟩ := List.exists_cons_of_ne_nil nonempty
  have isDigit := areDigits c List.mem_cons_self
  rcases signed with rfl | ⟨rfl, rfl⟩
  · have noMinus : c ≠ '-' := by
      rintro rfl
      cases isDigit
    have isInteger : IsInteger ([] ++ c :: rest) :=
      isInteger_iff.mpr ⟨[], c :: rest, rfl, .inl rfl, nonempty, areDigits⟩
    exact isInteger.nextToken?_eq (startsNegation_of_ne noMinus after rest)
  · have isInteger : IsInteger (['-'] ++ c :: rest) :=
      isInteger_iff.mpr ⟨['-'], c :: rest, rfl, .inr rfl, nonempty, areDigits⟩
    exact isInteger.nextToken?_eq (by simp [startsNegation, isDigit])

end Numbers

end FilterQuery
