import FilterQuery.Command.Columns
import FilterQuery.Proofs.Number.Numerals
import Mathlib.Data.List.Dedup
import Mathlib.Data.List.Nodup
import Mathlib.Data.List.TakeWhile

/-!
# Mappings by flags

A `ColumnMapping` gives fields columns whose names have none of the marks of flags and records. One
flag for each entry makes up the mapping, and the mapping survives being written as one text and
read again: `ColumnMapping.ofText_text`.
-/

namespace FilterQuery.Text

section Records

/-- Characters that need no quotation marks in a record. -/
def NeedNoQuotes (characters : List Char) : Prop :=
  ∀ c ∈ characters, isSpace c = false ∧ c ≠ ',' ∧ c ≠ '"'

theorem NeedNoQuotes.no_lineEnd {characters : List Char} (plain : NeedNoQuotes characters)
    {c : Char} (listed : c ∈ characters) : c ≠ '\n' ∧ c ≠ '\r' := by
  have space := (plain c listed).1
  constructor
  · rintro rfl
    cases space
  · rintro rfl
    cases space

/-- A field without quotation marks is taken up to its end. -/
theorem readFields_plain {characters : List Char} (plain : NeedNoQuotes characters)
    (first line column : Nat) (field rest : List Char) :
    ∃ next, readFields first .plain line column field (characters ++ rest) =
      readFields first .plain line next (characters.reverse ++ field) rest := by
  induction characters generalizing column field with
  | nil => exact ⟨column, rfl⟩
  | cons c characters inductionHypothesis =>
    obtain ⟨-, noComma, noMark⟩ := plain c List.mem_cons_self
    obtain ⟨noLineEnd, -⟩ := plain.no_lineEnd List.mem_cons_self
    obtain ⟨next, continued⟩ := inductionHypothesis
      (fun d listed => plain d (List.mem_cons_of_mem c listed)) (column + c.utf8Size) (c :: field)
    refine ⟨next, ?_⟩
    simp [readFields, noComma, noMark, noLineEnd, continued]

/-- The start of a field without quotation marks is like the rest of it. -/
theorem readFields_start {characters : List Char} (plain : NeedNoQuotes characters)
    (nonempty : characters ≠ []) (first line column : Nat) (rest : List Char) :
    ∃ next, readFields first .start line column [] (characters ++ rest) =
      readFields first .plain line next characters.reverse rest := by
  obtain ⟨c, others, rfl⟩ := List.exists_cons_of_ne_nil nonempty
  obtain ⟨-, noComma, noMark⟩ := plain c List.mem_cons_self
  obtain ⟨noLineEnd, -⟩ := plain.no_lineEnd List.mem_cons_self
  obtain ⟨next, continued⟩ := readFields_plain
    (fun d listed => plain d (List.mem_cons_of_mem c listed)) first line (column + c.utf8Size) [c]
    rest
  refine ⟨next, ?_⟩
  simp [readFields, noComma, noMark, noLineEnd, continued]

/-- Fields with commas between them are read one by one. -/
theorem readFields_intercalate {fields : List String}
    (plain : ∀ field ∈ fields, field.toList ≠ [] ∧ NeedNoQuotes field.toList)
    (nonempty : fields ≠ []) (first line column : Nat) :
    readFields first .start line column [] (",".intercalate fields).toList = .ok fields := by
  induction fields generalizing column with
  | nil => exact absurd rfl nonempty
  | cons field fields inductionHypothesis =>
    obtain ⟨⟨isField, unquoted⟩, others⟩ := List.forall_mem_cons.mp plain
    cases fields with
    | nil =>
      obtain ⟨next, taken⟩ := readFields_start unquoted isField first line column []
      rw [List.append_nil] at taken
      simp [taken, readFields]
    | cons other fields =>
      have separated : (",".intercalate (field :: other :: fields)).toList =
          field.toList ++ ',' :: (",".intercalate (other :: fields)).toList := by
        simp [String.intercalate_cons_cons]
      have read := inductionHypothesis others (List.cons_ne_nil other fields)
      rw [separated]
      generalize (",".intercalate (other :: fields)).toList = rest at read ⊢
      obtain ⟨next, taken⟩ := readFields_start unquoted isField first line column (',' :: rest)
      rw [taken]
      simp [readFields, read, Except.map]

theorem plainLineEnds_of_plain {text : List Char} (plain : ∀ c ∈ text, c ≠ '\r') :
    plainLineEnds text = text := by
  induction text with
  | nil => rfl
  | cons c text inductionHypothesis =>
    obtain ⟨here, there⟩ := List.forall_mem_cons.mp plain
    simp [plainLineEnds, here, inductionHypothesis there]

/-- A record of fields that need no quotation marks is these fields with commas between them. -/
theorem recordText_of_plain {fields : List String}
    (plain : ∀ field ∈ fields, field.toList ≠ [] ∧ NeedNoQuotes field.toList)
    (marked : ∀ field ∈ fields, field.toList ≠ ['\\', '.']) :
    recordText fields = ",".intercalate fields := by
  have written : ∀ field ∈ fields, String.ofList (recordField field) = id field := by
    intro field listed
    obtain ⟨isField, unquoted⟩ := plain field listed
    have quoteless : needsQuotes field.toList = false := by
      obtain ⟨c, rest, characters⟩ := List.exists_cons_of_ne_nil isField
      have other := marked field listed
      rw [characters] at unquoted other ⊢
      have inside : ∀ d ∈ c :: rest,
          (d == ',' || d == '"' || d == '\n' || d == '\r') = false := by
        intro d member
        obtain ⟨-, noComma, noMark⟩ := unquoted d member
        obtain ⟨noLineFeed, noReturn⟩ := unquoted.no_lineEnd member
        simp [noComma, noMark, noLineFeed, noReturn]
      have start := (unquoted c List.mem_cons_self).1
      simp only [needsQuotes, start, beq_eq_false_iff_ne.mpr other, Bool.false_or]
      exact List.any_eq_false.mpr fun d member => by simp [inside d member]
    rw [recordField, quoteless]
    exact String.ofList_toList
  rw [recordText, List.map_congr_left written, List.map_id]

/-- The characters of a record are commas and the characters of its fields. -/
theorem mem_intercalate_comma {fields : List String} {c : Char}
    (listed : c ∈ (",".intercalate fields).toList) :
    c = ',' ∨ ∃ field ∈ fields, c ∈ field.toList := by
  induction fields with
  | nil => simp at listed
  | cons field fields inductionHypothesis =>
    cases fields with
    | nil => exact .inr ⟨field, List.mem_singleton_self field, by simpa using listed⟩
    | cons other fields =>
      rw [String.intercalate_cons_cons, String.toList_append, String.toList_append,
        List.mem_append, List.mem_append] at listed
      rcases listed with (here | comma) | there
      · exact .inr ⟨field, List.mem_cons_self, here⟩
      · exact .inl (List.mem_singleton.mp comma)
      · rcases inductionHypothesis there with comma | ⟨found, member, inside⟩
        · exact .inl comma
        · exact .inr ⟨found, List.mem_cons_of_mem field member, inside⟩

/-- There is nothing to drop where no character is of the kind. -/
theorem dropWhile_of_forall_not {drop : Char → Bool} {text : List Char}
    (kept : ∀ c ∈ text, drop c = false) : text.dropWhile drop = text := by
  rw [List.dropWhile_eq_self_iff]
  intro nonempty
  simp [kept _ (List.getElem_mem nonempty)]

/-- Such a record is read back. -/
theorem readRecord_intercalate {fields : List String}
    (plain : ∀ field ∈ fields, field.toList ≠ [] ∧ NeedNoQuotes field.toList)
    (nonempty : fields ≠ []) : readRecord (",".intercalate fields) = .ok fields := by
  have noLineEnd : ∀ c ∈ (",".intercalate fields).toList, c ≠ '\n' ∧ c ≠ '\r' := by
    intro c listed
    rcases mem_intercalate_comma listed with rfl | ⟨field, member, inside⟩
    · decide
    · exact (plain field member).2.no_lineEnd inside
  have oneLine := plainLineEnds_of_plain fun c listed => (noLineEnd c listed).2
  have started : (",".intercalate fields).toList.dropWhile (· == '\n') =
      (",".intercalate fields).toList :=
    dropWhile_of_forall_not fun c listed => beq_eq_false_iff_ne.mpr (noLineEnd c listed).1
  have read := fun first => readFields_intercalate plain nonempty first first 1
  have isRecord : (",".intercalate fields).toList.isEmpty = false := by
    rw [List.isEmpty_eq_false_iff]
    intro empty
    have nothing := read 1
    rw [empty] at nothing
    cases nothing
    exact (plain "" (List.mem_singleton_self "")).1 rfl
  simp only [readRecord, oneLine, started, isRecord, read]
  rfl

end Records

end FilterQuery.Text

namespace FilterQuery.Command

section Names

/-- The marks of flags, records and texts of mappings. -/
def marks : List Char := [',', '=', '"', '[', ']']

/-- Whether a character may stand in a name. -/
def isNamePart (c : Char) : Bool := !Text.isSpace c && !marks.contains c

/-- A name that can be told apart from what stands around it: it is not empty and has neither white
space nor marks. -/
def IsPlainName (name : String) : Prop := name ≠ "" ∧ ∀ c ∈ name.toList, isNamePart c = true

instance (name : String) : Decidable (IsPlainName name) :=
  decidable_of_iff (name ≠ "" ∧ name.toList.all isNamePart = true) (by simp [IsPlainName])

/-- Letters do not become white space or marks in lower case. -/
theorem isNamePart_lowerChar {c : Char} (part : isNamePart c = true) :
    isNamePart (Text.lowerChar c) = true := by
  -- The bounds keep lower-case letters off the code points of white space, range by range.
  have images : ∀ rule ∈ Text.lowerShifts, 0x61 ≤ rule.first + rule.shift ∧
      (rule.last + rule.shift < 0x85 ∨ 0xa0 < rule.first + rule.shift) ∧
      (rule.last + rule.shift < 0x1680 ∨ 0x1680 < rule.first + rule.shift) ∧
      (rule.last + rule.shift < 0x2000 ∨ 0x205f < rule.first + rule.shift) ∧
      (rule.last + rule.shift < 0x3000 ∨ 0x3000 < rule.first + rule.shift) :=
    List.all_iff_forall_prop.mp (by decide +kernel)
  have small : ∀ mark ∈ marks, 0 < mark.toNat ∧ mark.toNat < 0x61 :=
    List.all_iff_forall_prop.mp (by decide +kernel)
  unfold Text.lowerChar Text.shiftCase
  split
  · next rule found =>
    have image := images rule (List.mem_of_find?_eq_some found)
    have covers := List.find?_some found
    simp only [Text.CaseShift.covers, Bool.and_eq_true, decide_eq_true_eq] at covers
    obtain ⟨⟨fromFirst, toLast⟩, -⟩ := covers
    have code := Text.toNat_ofNat (c.toNat + rule.shift).toNat
    generalize Char.ofNat (c.toNat + rule.shift).toNat = lowered at code ⊢
    have unmarked : lowered ∉ marks := by
      intro listed
      have bounds := small lowered listed
      split at code <;> omega
    have unspaced : Text.isSpace lowered = false := by
      simp only [Text.isSpace, Bool.or_eq_false_iff, Bool.and_eq_false_iff, decide_eq_false_iff_not,
        beq_eq_false_iff_ne]
      split at code <;> omega
    simp [isNamePart, unmarked, unspaced]
  · exact part

theorem IsPlainName.lower {name : String} (plain : IsPlainName name) :
    IsPlainName (Text.lower name) := by
  obtain ⟨nonempty, parts⟩ := plain
  constructor
  · simpa [Text.lower] using nonempty
  · intro c listed
    rw [Text.lower, String.toList_ofList, List.mem_map] at listed
    obtain ⟨d, member, rfl⟩ := listed
    exact isNamePart_lowerChar (parts d member)

end Names

section Entries

variable {Value : Type} {entries : List (String × Value)} {key : String} {value : Value}

theorem mem_of_lookup (found : entries.lookup key = some value) : (key, value) ∈ entries := by
  obtain ⟨before, after, rfl, -⟩ := List.lookup_eq_some_iff.mp found
  simp

theorem lookup_eq_none_iff_forall :
    entries.lookup key = none ↔ ∀ entry ∈ entries, entry.1 ≠ key := by
  rw [List.lookup_eq_none_iff]
  exact forall₂_congr fun entry _ => by rw [bne_iff_ne, ne_comm]

/-- Of distinct keys, each has the value that is listed for it. -/
theorem lookup_eq_some_of_mem (distinct : (entries.map Prod.fst).Nodup)
    (listed : (key, value) ∈ entries) : entries.lookup key = some value := by
  cases found : entries.lookup key with
  | none => exact absurd rfl (lookup_eq_none_iff_forall.mp found (key, value) listed)
  | some other =>
    have same := List.inj_on_of_nodup_map distinct (mem_of_lookup found) listed rfl
    rw [(Prod.mk.inj same).2]

/-- Values may be looked up before or after they are all replaced. -/
theorem lookup_map_value {Other : Type} (replace : Value → Other) :
    (entries.map fun (key, value) => (key, replace value)).lookup key =
      (entries.lookup key).map replace := by
  induction entries with
  | nil => rfl
  | cons entry rest inductionHypothesis =>
    obtain ⟨other, value⟩ := entry
    rw [List.map_cons, List.lookup_cons, List.lookup_cons]
    cases key == other with
    | true => rfl
    | false => exact inductionHypothesis

namespace Columns

/-- A field without a column is added behind the others. -/
theorem put_of_fresh {columns : Columns} {field : String} (fresh : field ∉ columns.map Prod.fst)
    (column : String) : columns.put field column = columns ++ [(field, column)] := by
  induction columns with
  | nil => rfl
  | cons entry rest inductionHypothesis =>
    rw [List.map_cons, List.mem_cons, not_or] at fresh
    rw [put, if_neg (Ne.symm fresh.1), inductionHypothesis fresh.2, List.cons_append]

/-- Mappings without common fields are put one behind the other. -/
theorem merge_of_distinct {first second : Columns}
    (distinct : ((first ++ second).map Prod.fst).Nodup) : first.merge second = first ++ second := by
  induction second generalizing first with
  | nil => exact (List.append_nil first).symm
  | cons entry rest inductionHypothesis =>
    have moved : first ++ entry :: rest = (first ++ [entry]) ++ rest := by simp
    have fresh : entry.1 ∉ first.map Prod.fst := by
      intro listed
      rw [List.map_append, List.map_cons, List.nodup_append] at distinct
      exact distinct.2.2 entry.1 listed entry.1 List.mem_cons_self rfl
    rw [moved] at distinct ⊢
    rw [← inductionHypothesis distinct, ← put_of_fresh fresh entry.2]
    rfl

/-- A list of columns without the entries that decide nothing. -/
def firstOnly (columns : Columns) : Columns :=
  (columns.map Prod.fst).dedup.map fun field => (field, (columns.lookup field).getD "")

theorem nodup_firstOnly (columns : Columns) : (columns.firstOnly.map Prod.fst).Nodup := by
  have fields : columns.firstOnly.map Prod.fst = (columns.map Prod.fst).dedup := by
    simp [firstOnly, Function.comp_def]
  rw [fields]
  exact List.nodup_dedup _

theorem mem_firstOnly {columns : Columns} {entry : String × String}
    (listed : entry ∈ columns.firstOnly) : entry ∈ columns := by
  obtain ⟨field, member, rfl⟩ := List.mem_map.mp listed
  cases found : columns.lookup field with
  | some column => exact mem_of_lookup found
  | none =>
    obtain ⟨other, present, same⟩ := List.mem_map.mp (List.mem_dedup.mp member)
    exact absurd same (lookup_eq_none_iff_forall.mp found other present)

theorem lookup_firstOnly (columns : Columns) (field : String) :
    columns.firstOnly.lookup field = columns.lookup field := by
  cases found : columns.lookup field with
  | some column =>
    apply lookup_eq_some_of_mem columns.nodup_firstOnly
    refine List.mem_map.mpr ⟨field, ?_, by rw [found]; rfl⟩
    exact List.mem_dedup.mpr (List.mem_map_of_mem (mem_of_lookup found))
  | none =>
    refine lookup_eq_none_iff_forall.mpr fun entry listed => ?_
    exact lookup_eq_none_iff_forall.mp found entry (mem_firstOnly listed)

end Columns

end Entries

/-- Which fields have columns, and which. -/
structure ColumnMapping where
  entries : Columns
  distinct : (entries.map Prod.fst).Nodup
  plain : ∀ entry ∈ entries, IsPlainName entry.1 ∧ IsPlainName entry.2

namespace ColumnMapping

/-- The column of a field, which has the name of the field if there is no other. -/
def column (mapping : ColumnMapping) (field : String) : String :=
  (mapping.entries.lookup field).getD field

/-- The mapping as flags, one for each entry. -/
def flags (mapping : ColumnMapping) : List String :=
  mapping.entries.flatMap fun (field, column) => ["--column", field ++ "=" ++ column]

end ColumnMapping

section Pairs

variable {field column : String}

theorem toList_pair (field column : String) :
    (field ++ "=" ++ column).toList = field.toList ++ '=' :: column.toList := by
  simp

/-- Besides the sign between its names, a pair has no mark. -/
theorem mem_pair (plainField : IsPlainName field) (plainColumn : IsPlainName column) {c : Char}
    (listed : c ∈ (field ++ "=" ++ column).toList) : c = '=' ∨ isNamePart c = true := by
  rw [toList_pair, List.mem_append, List.mem_cons] at listed
  rcases listed with here | rfl | there
  · exact .inr (plainField.2 c here)
  · exact .inl rfl
  · exact .inr (plainColumn.2 c there)

theorem not_mem_of_isNamePart {c mark : Char} (part : isNamePart c = true) (listed : mark ∈ marks) :
    c ≠ mark := by
  rintro rfl
  simp [isNamePart, listed] at part

theorem splitPair_pair (plainField : IsPlainName field) (column : String) :
    Columns.splitPair (field ++ "=" ++ column) = .ok (field, column) := by
  have before : ∀ c ∈ field.toList, (c != '=') = true := fun c listed =>
    bne_iff_ne.mpr (not_mem_of_isNamePart (plainField.2 c listed) (by decide))
  simp [Columns.splitPair, List.dropWhile_append_of_pos before, List.takeWhile_append_of_pos before]

/-- There is nothing to trim where no character is of the kind. -/
theorem trim_of_forall_not {drop : Char → Bool} {text : String}
    (kept : ∀ c ∈ text.toList, drop c = false) : Columns.trim drop text = text := by
  have backward : ∀ c ∈ text.toList.reverse, drop c = false := fun c listed =>
    kept c (List.mem_reverse.mp listed)
  rw [Columns.trim, Text.dropWhile_of_forall_not kept, Text.dropWhile_of_forall_not backward,
    List.reverse_reverse, String.ofList_toList]

/-- A flag with one pair is read as that pair. -/
theorem ofFlag_pair (plainField : IsPlainName field) (plainColumn : IsPlainName column) :
    Columns.ofFlag (field ++ "=" ++ column) = .ok [(field, column)] := by
  have noSign {name : String} (plain : IsPlainName name) : name.toList.count '=' = 0 :=
    List.count_eq_zero.mpr fun listed =>
      not_mem_of_isNamePart (plain.2 '=' listed) (by decide) rfl
  have one : (field ++ "=" ++ column).toList.count '=' = 1 := by
    rw [toList_pair, List.count_append, List.count_cons_self, noSign plainField,
      noSign plainColumn]
  have unquoted : Columns.trim (· == '"') (field ++ "=" ++ column) = field ++ "=" ++ column := by
    apply trim_of_forall_not
    intro c listed
    rw [beq_eq_false_iff_ne]
    rcases mem_pair plainField plainColumn listed with rfl | part
    · decide
    · exact not_mem_of_isNamePart part (by decide)
  rw [Columns.ofFlag, one, unquoted]
  simp only [Columns.ofPairs, splitPair_pair plainField column]
  rfl

end Pairs

section Texts

/-- The entries of a mapping as pairs. -/
def ColumnMapping.pairs (mapping : ColumnMapping) : List String :=
  mapping.entries.map fun (field, column) => field ++ "=" ++ column

/-- Pairs of distinct fields are read as their entries. -/
theorem ofPairs_pairs {entries : Columns} (distinct : (entries.map Prod.fst).Nodup)
    (plain : ∀ entry ∈ entries, IsPlainName entry.1 ∧ IsPlainName entry.2) :
    Columns.ofPairs (entries.map fun (field, column) => field ++ "=" ++ column) = .ok entries := by
  induction entries with
  | nil => rfl
  | cons entry rest inductionHypothesis =>
    obtain ⟨⟨plainField, -⟩, plainRest⟩ := List.forall_mem_cons.mp plain
    have others := inductionHypothesis (List.nodup_cons.mp distinct).2 plainRest
    have joined : Columns.merge [entry] rest = [entry] ++ rest :=
      Columns.merge_of_distinct distinct
    simp only [List.map_cons, Columns.ofPairs, splitPair_pair plainField, others]
    exact congrArg Except.ok joined

variable (mapping : ColumnMapping)

/-- The pairs of a mapping need no quotation marks. -/
theorem ColumnMapping.plain_pairs :
    ∀ pair ∈ mapping.pairs, pair.toList ≠ [] ∧ Text.NeedNoQuotes pair.toList := by
  intro pair listed
  obtain ⟨⟨field, column⟩, member, rfl⟩ := List.mem_map.mp listed
  obtain ⟨plainField, plainColumn⟩ := mapping.plain _ member
  refine ⟨by simp, fun c inside => ?_⟩
  rcases mem_pair plainField plainColumn inside with rfl | part
  · decide
  · have space : Text.isSpace c = false := by
      simp [isNamePart] at part
      exact part.1
    exact ⟨space, not_mem_of_isNamePart part (by decide), not_mem_of_isNamePart part (by decide)⟩

/-- The record of a mapping has neither white space nor brackets. -/
theorem ColumnMapping.mem_record {c : Char} (listed : c ∈ (",".intercalate mapping.pairs).toList) :
    Text.isSpace c = false ∧ c ≠ '[' ∧ c ≠ ']' := by
  rcases Text.mem_intercalate_comma listed with rfl | ⟨pair, member, inside⟩
  · decide
  · obtain ⟨⟨field, column⟩, entry, rfl⟩ := List.mem_map.mp member
    obtain ⟨plainField, plainColumn⟩ := mapping.plain _ entry
    refine ⟨((mapping.plain_pairs _ member).2 c inside).1, ?_⟩
    rcases mem_pair plainField plainColumn inside with rfl | part
    · decide
    · exact ⟨not_mem_of_isNamePart part (by decide), not_mem_of_isNamePart part (by decide)⟩

/-- The text of a mapping is its record in brackets. -/
theorem ColumnMapping.text_entries :
    Columns.text mapping.entries = "[" ++ ",".intercalate mapping.pairs ++ "]" := by
  have marked : ∀ pair ∈ mapping.pairs, pair.toList ≠ ['\\', '.'] := by
    intro pair listed same
    obtain ⟨⟨field, column⟩, -, rfl⟩ := List.mem_map.mp listed
    have sign : '=' ∈ (field ++ "=" ++ column).toList := by simp
    rw [same] at sign
    revert sign
    decide
  have record : Text.recordText mapping.pairs = ",".intercalate mapping.pairs :=
    Text.recordText_of_plain mapping.plain_pairs marked
  have trimmed : String.ofList (Text.trimSpace (",".intercalate mapping.pairs).toList) =
      ",".intercalate mapping.pairs :=
    trim_of_forall_not fun _ listed => (mapping.mem_record listed).1
  have bracketed : Columns.text mapping.entries =
      "[" ++ String.ofList (Text.trimSpace (Text.recordText mapping.pairs).toList) ++ "]" := rfl
  rw [bracketed, record, trimmed]

/-- Brackets are trimmed from around a text that has none. -/
theorem trim_bracketed {text : String} (kept : ∀ c ∈ text.toList, c ≠ '[' ∧ c ≠ ']') :
    Columns.trim (fun c => c == '[' || c == ']') ("[" ++ text ++ "]") = text := by
  have outside : ∀ c ∈ text.toList.reverse, (c == '[' || c == ']') = false := by
    intro c listed
    simp [kept c (List.mem_reverse.mp listed)]
  -- An empty text is trimmed away from the front, with both brackets.
  have closed : (("[" ++ text ++ "]").toList.dropWhile fun c => c == '[' || c == ']').reverse =
        [] ∧ text = "" ∨
      (("[" ++ text ++ "]").toList.dropWhile fun c => c == '[' || c == ']').reverse =
        ']' :: text.toList.reverse := by
    cases characters : text.toList with
    | nil => exact .inl ⟨by simp [characters], String.toList_eq_nil_iff.mp characters⟩
    | cons c rest =>
      have start := kept c (by rw [characters]; exact List.mem_cons_self)
      exact .inr (by simp [characters, start])
  rcases closed with ⟨nothing, rfl⟩ | bracket
  · rw [Columns.trim, nothing]
    rfl
  · rw [Columns.trim, bracket, List.dropWhile_cons_of_pos (by decide),
      Text.dropWhile_of_forall_not outside, List.reverse_reverse, String.ofList_toList]

/-- A mapping that is written as one text is read back. -/
theorem ColumnMapping.ofText_text :
    Columns.ofText (Columns.text mapping.entries) = mapping.entries := by
  have record := trim_bracketed fun _ listed => (mapping.mem_record listed).2
  have read : Columns.ofPairs mapping.pairs = .ok mapping.entries :=
    ofPairs_pairs mapping.distinct mapping.plain
  unfold Columns.ofText
  simp only [mapping.text_entries, record]
  by_cases empty : mapping.pairs = []
  · have noEntries : mapping.entries = [] := List.map_eq_nil_iff.mp empty
    rw [empty, noEntries]
    rfl
  · have parsed := Text.readRecord_intercalate mapping.plain_pairs empty
    have nonempty : ¬ (",".intercalate mapping.pairs).isEmpty = true := by
      intro isEmpty
      rw [String.isEmpty_iff.mp isEmpty] at parsed
      cases parsed
    simp only [if_neg nonempty, parsed, read]
    rfl

end Texts

end FilterQuery.Command
