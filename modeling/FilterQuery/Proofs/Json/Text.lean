import Mathlib.Data.List.Forall2
import FilterQuery.Json.Text
import FilterQuery.Json.Value

/-!
# Written JSON is read back

A text that is written as a JSON string is read back as that text, whatever stands behind the
closing quotation mark: `takeString?_escaped`. Two texts that are written alike are therefore one
text, and `quote` loses nothing. An object is read back as soon as its values are: `spells_object`.
-/

namespace FilterQuery.Json

open JsonValue

/-- A hexadecimal digit stands for the number that it was written for. -/
theorem hexValue?_hexDigit {n : Nat} (digit : n < 16) :
    (Text.hexDigit n).toNat < 0x80 ∧
      Text.hexValue? (UInt8.ofNat (Text.hexDigit n).toNat) = some n := by
  have each : ∀ m : Fin 16, (Text.hexDigit m).toNat < 0x80 ∧
      Text.hexValue? (UInt8.ofNat (Text.hexDigit m).toNat) = some m.val := by decide
  exact each ⟨n, digit⟩

/-- Four hexadecimal digits hold every number of sixteen bits. -/
theorem fourDigits?_hexDigits {n : Nat} (fits : n < 0x10000) :
    fourDigits? (Text.hexDigits 4 n) = some n := by
  obtain ⟨first, firstValue⟩ := hexValue?_hexDigit (Nat.mod_lt (n / 16 / 16 / 16) (by decide))
  obtain ⟨second, secondValue⟩ := hexValue?_hexDigit (Nat.mod_lt (n / 16 / 16) (by decide))
  obtain ⟨third, thirdValue⟩ := hexValue?_hexDigit (Nat.mod_lt (n / 16) (by decide))
  obtain ⟨fourth, fourthValue⟩ := hexValue?_hexDigit (Nat.mod_lt n (by decide))
  simp only [fourDigits?, Text.hexDigits, List.nil_append, List.cons_append, List.foldlM_cons,
    List.foldlM_nil, first, second, third, fourth, firstValue, secondValue, thirdValue,
    fourthValue, if_true, Option.map_some, Option.bind_eq_bind, Option.bind_some, Option.pure_def]
  congr 1
  omega

/-- The letter of a short escape is read as the character that it is written for. -/
theorem escaped?_of_shortEscape? {c letter : Char} (short : shortEscape? c = some letter) :
    letter ≠ 'u' ∧ escaped? letter = some c := by
  have known {n : Nat} (code : c.toNat = n) : c = Char.ofNat n := by
    rw [← code, Char.ofNat_toNat]
  unfold shortEscape? at short
  split at short <;> cases short
  all_goals
    rename_i code
    rw [known code]
    decide

/-- A character of a string as a reader finds it. -/
def piece (escapeTags : Bool) (c : Char) : Piece :=
  if shortEscape? c = none ∧ needsCode escapeTags c = true then .unit c.toNat else .char c

/-- Characters that are written by their code point have one of sixteen bits. -/
theorem toNat_lt_of_needsCode {escapeTags : Bool} {c : Char}
    (coded : needsCode escapeTags c = true) : c.toNat < 0x10000 := by
  simp only [needsCode, Bool.or_eq_true, Bool.and_eq_true, decide_eq_true_eq, beq_iff_eq] at coded
  rcases coded with ((low | line) | paragraph) | ⟨-, (rfl | rfl) | rfl⟩
  · omega
  · omega
  · omega
  all_goals decide

/-- What stands for a character is read as one piece. -/
theorem takePieces?_escapeChar (escapeTags : Bool) (c : Char) {text rest : List Char}
    {pieces : List Piece} (read : takePieces? text = some (pieces, rest)) :
    takePieces? (escapeChar escapeTags c ++ text) = some (piece escapeTags c :: pieces, rest) := by
  unfold escapeChar piece
  cases short : shortEscape? c with
  | some letter =>
    obtain ⟨notCode, isLetter⟩ := escaped?_of_shortEscape? short
    simp [takePieces?, notCode, isLetter, read]
  | none =>
    cases coded : needsCode escapeTags c with
    | true =>
      have digits := fourDigits?_hexDigits (toNat_lt_of_needsCode coded)
      simp only [Text.hexDigits, List.nil_append, List.cons_append] at digits
      simp [Text.hexDigits, takePieces?, digits, read]
    | false =>
      have noMark : c ≠ '"' := by
        rintro rfl
        cases short
      have noBackslash : c ≠ '\\' := by
        rintro rfl
        cases short
      have printable : ¬ c.toNat < 0x20 := by
        intro low
        simp [needsCode, low] at coded
      simp [takePieces?, noBackslash, printable, read]

/-- The pieces of a written text are those of its characters. -/
theorem takePieces?_escaped (escapeTags : Bool) (text rest : List Char) :
    takePieces? (text.flatMap (escapeChar escapeTags) ++ '"' :: rest) =
      some (text.map (piece escapeTags), rest) := by
  induction text with
  | nil => rfl
  | cons c text inductionHypothesis =>
    rw [List.flatMap_cons, List.append_assoc, List.map_cons]
    exact takePieces?_escapeChar escapeTags c inductionHypothesis

/-- A character is no half of another, so its unit does not join the next one. -/
theorem joinPieces_unit (c : Char) (pieces : List Piece) :
    joinPieces (.unit c.toNat :: pieces) = c :: joinPieces pieces := by
  have whole : ¬ (0xd800 ≤ c.toNat ∧ c.toNat < 0xe000) := by
    have valid : c.toNat < 0xd800 ∨ 0xdfff < c.toNat ∧ c.toNat < 0x110000 := c.valid
    omega
  have alone : unitChar c.toNat = c := by
    rw [unitChar, if_neg whole, Char.ofNat_toNat]
  match pieces with
  | [] => simp only [joinPieces, alone]
  | .char d :: rest => simp only [joinPieces, alone]
  | .unit low :: rest =>
    have apart : joinUnits? c.toNat low = none := by
      rw [joinUnits?, if_neg]
      omega
    rw [joinPieces, apart, alone]

theorem joinPieces_map_piece (escapeTags : Bool) (text : List Char) :
    joinPieces (text.map (piece escapeTags)) = text := by
  induction text with
  | nil => rfl
  | cons c text inductionHypothesis =>
    rw [List.map_cons, piece]
    split
    · rw [joinPieces_unit, inductionHypothesis]
    · rw [joinPieces, inductionHypothesis]

/-- A written string is read back, whatever stands behind it. -/
theorem takeString?_escaped (escapeTags : Bool) (text : String) (rest : List Char) :
    takeString? (text.toList.flatMap (escapeChar escapeTags) ++ '"' :: rest) =
      some (text, rest) := by
  simp only [takeString?, takePieces?_escaped, Option.map_some, joinPieces_map_piece,
    String.ofList_toList]

/-- Texts that are written alike are one text. -/
theorem quote_inj {escapeTags : Bool} {first second : String}
    (same : quote escapeTags first = quote escapeTags second) : first = second := by
  have characters : first.toList.flatMap (escapeChar escapeTags) ++ ['"'] =
      second.toList.flatMap (escapeChar escapeTags) ++ ['"'] := by
    have written := congrArg String.toList same
    simpa [quote] using written
  have read := takeString?_escaped escapeTags first []
  rw [characters, takeString?_escaped] at read
  cases read
  rfl

/-- A text is read as a value, whatever stands behind it. The limit is above its length. -/
def Spells (text : String) (value : JsonValue) : Prop :=
  ∀ limit rest, text.length < limit → take? limit (text.toList ++ rest) = some (value, rest)

theorem Spells.read? {text : String} {value : JsonValue} (spells : Spells text value) :
    JsonValue.read? text = some value := by
  have taken := spells (text.length + 2) [] (by omega)
  rw [List.append_nil] at taken
  rw [JsonValue.read?, taken]
  rfl

theorem spells_quote (escapeTags : Bool) (text : String) :
    Spells (quote escapeTags text) (.string text) := by
  rintro (_ | limit) rest room
  · omega
  · have read := takeString?_escaped escapeTags text rest
    simp [quote, take?, skipBlank, isBlank, read]

section Objects

variable {escapeTags : Bool}

/-- A field of an object as it is written. -/
def fieldText (escapeTags : Bool) (field : String × String) : String :=
  quote escapeTags field.1 ++ ":" ++ field.2

/-- The fields of an object as they are written. -/
def fieldsText (escapeTags : Bool) (fields : List (String × String)) : String :=
  ",".intercalate (fields.map (fieldText escapeTags))

theorem object_eq (fields : List (String × String)) :
    object escapeTags fields = "\x7b" ++ fieldsText escapeTags fields ++ "\x7d" := rfl

theorem toList_fieldText (field : String × String) :
    (fieldText escapeTags field).toList =
      '"' :: (field.1.toList.flatMap (escapeChar escapeTags) ++ '"' :: ':' :: field.2.toList) := by
  simp [fieldText, quote]

theorem length_lt_length_fieldText (field : String × String) :
    field.2.length < (fieldText escapeTags field).length := by
  rw [← String.length_toList, ← String.length_toList, toList_fieldText]
  simp only [List.length_cons, List.length_append]
  omega

theorem fieldsText_singleton (field : String × String) :
    fieldsText escapeTags [field] = fieldText escapeTags field := by
  simp [fieldsText]

theorem fieldsText_cons_cons (field other : String × String) (fields : List (String × String)) :
    fieldsText escapeTags (field :: other :: fields) =
      fieldText escapeTags field ++ "," ++ fieldsText escapeTags (other :: fields) := by
  simp [fieldsText, String.intercalate_cons_cons]

/-- A field is read as another if they have the same key and the text of the one spells the value of
the other. -/
def SpellsField (field : String × String) (read : String × JsonValue) : Prop :=
  field.1 = read.1 ∧ Spells field.2 read.2

variable {field : String × String} {read : String × JsonValue} {limit : Nat}

/-- The last field of an object. -/
theorem takeFields?_last (spells : SpellsField field read) (room : field.2.length < limit)
    (rest : List Char) :
    takeFields? (limit + 1) ((fieldText escapeTags field).toList ++ '\x7d' :: rest) =
      some ([read], rest) := by
  rw [toList_fieldText]
  simp [takeFields?, skipBlank, isBlank, takeString?_escaped, spells.2 limit _ room, spells.1]

/-- A field before others. -/
theorem takeFields?_next (spells : SpellsField field read) (room : field.2.length < limit)
    {others rest : List Char} {reads : List (String × JsonValue)}
    (taken : takeFields? limit others = some (reads, rest)) :
    takeFields? (limit + 1) ((fieldText escapeTags field).toList ++ ',' :: others) =
      some (read :: reads, rest) := by
  rw [toList_fieldText]
  simp [takeFields?, skipBlank, isBlank, takeString?_escaped, spells.2 limit _ room, spells.1,
    taken]

/-- The fields of an object are read up to its end. -/
theorem takeFields?_fieldsText {fields : List (String × String)} {reads : List (String × JsonValue)}
    (spells : List.Forall₂ SpellsField fields reads) (nonempty : fields ≠ [])
    (room : (fieldsText escapeTags fields).length < limit) (rest : List Char) :
    takeFields? limit ((fieldsText escapeTags fields).toList ++ '\x7d' :: rest) =
      some (reads, rest) := by
  induction spells generalizing limit with
  | nil => exact absurd rfl nonempty
  | @cons field read fields reads spells others inductionHypothesis =>
    have shorter := @length_lt_length_fieldText escapeTags field
    obtain _ | limit := limit
    · omega
    -- What is read behind a field depends on whether it is the last one.
    cases others with
    | nil =>
      rw [fieldsText_singleton] at room ⊢
      exact takeFields?_last spells (by omega) rest
    | @cons other _ fields reads =>
      have comma : ",".length = 1 := rfl
      rw [fieldsText_cons_cons, String.length_append, String.length_append, comma] at room
      have taken := inductionHypothesis (List.cons_ne_nil other fields) (by omega : _ < limit)
      rw [fieldsText_cons_cons, String.toList_append, String.toList_append, List.append_assoc,
        List.append_assoc]
      exact takeFields?_next spells (by omega) taken

/-- Fields begin with the quotation mark of a key. -/
theorem exists_fieldsText_eq (field : String × String) (fields : List (String × String)) :
    ∃ tail, (fieldsText escapeTags (field :: fields)).toList = '"' :: tail := by
  cases fields with
  | nil => exact ⟨_, by rw [fieldsText_singleton, toList_fieldText]⟩
  | cons other fields =>
    rw [fieldsText_cons_cons, String.toList_append, String.toList_append, toList_fieldText]
    exact ⟨_, rfl⟩

/-- An object with values that are read back is read back itself. -/
theorem spells_object {fields : List (String × String)} {reads : List (String × JsonValue)}
    (spells : List.Forall₂ SpellsField fields reads) :
    Spells (object escapeTags fields) (.object reads) := by
  rintro (_ | limit) rest room
  · omega
  have opened : (object escapeTags fields).toList ++ rest =
      '\x7b' :: ((fieldsText escapeTags fields).toList ++ '\x7d' :: rest) := by
    simp [object_eq]
  have shorter : (fieldsText escapeTags fields).length < limit := by
    have braces : "\x7b".length = 1 ∧ "\x7d".length = 1 := ⟨rfl, rfl⟩
    rw [object_eq, String.length_append, String.length_append] at room
    omega
  rw [opened]
  cases spells with
  | nil => rfl
  | @cons field read fields reads first others =>
    have taken := takeFields?_fieldsText (.cons first others) (List.cons_ne_nil field fields)
      shorter rest
    obtain ⟨tail, starts⟩ := exists_fieldsText_eq field fields
    rw [starts, List.cons_append] at taken ⊢
    simp [take?, skipBlank, isBlank, taken]

end Objects

end FilterQuery.Json
