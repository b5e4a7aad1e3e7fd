import FilterQuery.Proofs.Command.Arguments
import FilterQuery.Proofs.Json.Text
import FilterQuery.Proofs.Sql.Naming

/-!
# Columns by file and by flags

A mapping of field paths to columns can be given by a file or by flags. A file is read with its keys
in lower case, so it means what flags mean for paths in lower case: `file_columns_in_lower_case`.
Which columns are left is the relation `ColumnMapping.FileGives`. A run by file and a run by flags
print the same for a filter exactly if the filter fails or all of its fields have the same columns
in both, because a clause shows its columns and nothing else of the mapping.
-/

namespace FilterQuery.Command

section Objects

variable {fields : List (String × JsonValue)} {key : String} {value : JsonValue}

/-- A field with its key in lower case. -/
def lowerKey (field : String × JsonValue) : String × JsonValue := (Text.lower field.1, field.2)

/-- The fields of an object in lower case: first those that were not, then those that were. -/
theorem lowerKeys_eq (fields : List (String × JsonValue)) :
    lowerKeys fields =
      (fields.reverse.filter fun field => field.1 != Text.lower field.1).map lowerKey ++
        (fields.reverse.filter fun field => field.1 == Text.lower field.1).map lowerKey := by
  have byParts : lowerKey = fun field => (Text.lower field.1, field.2) := rfl
  simp [lowerKeys, List.partition_eq_filter_filter, List.filter_map, Function.comp_def, bne,
    byParts]

theorem mem_lowerKeys :
    (key, value) ∈ lowerKeys fields ↔
      ∃ original, (original, value) ∈ fields ∧ Text.lower original = key := by
  rw [lowerKeys_eq, ← List.map_append]
  constructor
  · intro listed
    obtain ⟨⟨original, _⟩, member, same⟩ := List.mem_map.mp listed
    cases same
    rcases List.mem_append.mp member with changed | kept
    · exact ⟨original, List.mem_reverse.mp (List.mem_of_mem_filter changed), rfl⟩
    · exact ⟨original, List.mem_reverse.mp (List.mem_of_mem_filter kept), rfl⟩
  · rintro ⟨original, member, rfl⟩
    refine List.mem_map.mpr ⟨(original, value), ?_, rfl⟩
    by_cases same : original = Text.lower original
    · exact List.mem_append_right _ (List.mem_filter.mpr ⟨List.mem_reverse.mpr member, by simpa⟩)
    · exact List.mem_append_left _ (List.mem_filter.mpr ⟨List.mem_reverse.mpr member, by simpa⟩)

/-- No value is found for a key that no field has in lower case. -/
theorem lookup_lowerKeys_eq_none_iff :
    (lowerKeys fields).lookup key = none ↔ ∀ field ∈ fields, Text.lower field.1 ≠ key := by
  rw [lookup_eq_none_iff_forall]
  constructor
  · intro absent field listed lowers
    exact absent (key, field.2) (mem_lowerKeys.mpr ⟨field.1, listed, lowers⟩) rfl
  · rintro absent ⟨other, value⟩ listed rfl
    obtain ⟨original, member, lowers⟩ := mem_lowerKeys.mp listed
    exact absent (original, value) member lowers

/-- A value that is found belongs to a key with that lower-case form. It belongs to the key itself
only if there is no other such key. -/
theorem exists_of_lookup_lowerKeys (found : (lowerKeys fields).lookup key = some value) :
    ∃ original, (original, value) ∈ fields ∧ Text.lower original = key ∧
      (original = key → ∀ field ∈ fields, Text.lower field.1 = key → field.1 = key) := by
  rw [lowerKeys_eq, List.lookup_append, Option.or_eq_some_iff] at found
  -- Keys that were not in lower case stand first, so one of them is found if there is any.
  rcases found with changed | ⟨noneChanged, kept⟩
  · obtain ⟨⟨original, _⟩, member, same⟩ := List.mem_map.mp (mem_of_lookup changed)
    cases same
    obtain ⟨listed, differs⟩ := List.mem_filter.mp member
    refine ⟨original, List.mem_reverse.mp listed, rfl, fun equal => ?_⟩
    exact absurd equal (bne_iff_ne.mp differs)
  · obtain ⟨⟨original, _⟩, member, same⟩ := List.mem_map.mp (mem_of_lookup kept)
    cases same
    refine ⟨original, List.mem_reverse.mp (List.mem_of_mem_filter member), rfl, ?_⟩
    intro _ field listed lowers
    by_contra differs
    refine lookup_eq_none_iff_forall.mp noneChanged (lowerKey field) ?_ lowers
    refine List.mem_map_of_mem (List.mem_filter.mpr ⟨List.mem_reverse.mpr listed, ?_⟩)
    rw [bne_iff_ne, lowers]
    exact differs

end Objects

section Files

/-- The fields of an object are the entries of a mapping, in whatever order. -/
def ColumnMapping.IsWrittenAs (mapping : ColumnMapping) (entries : List (String × JsonValue)) :
    Prop :=
  entries.Perm (mapping.entries.map fun entry => (entry.1, .string entry.2))

/-- A mapping is the only field of an object that is called `column`, in whatever case. -/
def ColumnMapping.IsColumnOf (mapping : ColumnMapping) (fields : List (String × JsonValue)) :
    Prop :=
  ∃ key entries, mapping.IsWrittenAs entries ∧
    (fields.filter fun field => Text.lower field.1 == "column") = [(key, .object entries)]

/-- Such a field is found by its name. -/
theorem ColumnMapping.IsColumnOf.lookup {mapping : ColumnMapping}
    {fields : List (String × JsonValue)} (isColumn : mapping.IsColumnOf fields) :
    ∃ entries : List (String × JsonValue), mapping.IsWrittenAs entries ∧
      (lowerKeys fields).lookup "column" = some (.object entries) := by
  obtain ⟨key, entries, written, only⟩ := isColumn
  refine ⟨entries, written, ?_⟩
  have isOnly (field : String × JsonValue) :
      field ∈ fields ∧ Text.lower field.1 = "column" ↔ field = (key, .object entries) := by
    have member : field ∈ fields.filter (fun field => Text.lower field.1 == "column") ↔
        field ∈ [(key, .object entries)] := by rw [only]
    simpa using member
  cases found : (lowerKeys fields).lookup "column" with
  | none =>
    obtain ⟨listed, lowers⟩ := (isOnly (key, .object entries)).mpr rfl
    exact absurd lowers (lookup_lowerKeys_eq_none_iff.mp found _ listed)
  | some value =>
    obtain ⟨original, listed, lowers, -⟩ := exists_of_lookup_lowerKeys found
    cases (isOnly (original, value)).mp ⟨listed, lowers⟩
    rfl

/-- The columns that a file may give a field. A path that is not in lower case stands for its
lower-case form, and then the field's own entry counts no more. If several paths have that form,
one of them counts. -/
inductive ColumnMapping.FileGives (mapping : ColumnMapping) (field : String) : String → Prop where
  | lowered {path column : String} (listed : (path, column) ∈ mapping.entries)
      (changed : path ≠ field) (lowers : Text.lower path = field) : mapping.FileGives field column
  | kept {column : String} (listed : (field, column) ∈ mapping.entries)
      (lower : Text.lower field = field)
      (alone : ∀ entry ∈ mapping.entries, Text.lower entry.1 = field → entry.1 = field) :
      mapping.FileGives field column
  | unnamed (absent : ∀ entry ∈ mapping.entries, Text.lower entry.1 ≠ field) :
      mapping.FileGives field field

/-- All paths are in lower case. -/
def ColumnMapping.InLowerCase (mapping : ColumnMapping) : Prop :=
  ∀ entry ∈ mapping.entries, Text.lower entry.1 = entry.1

/-- A file gives fields their own columns if all paths are in lower case. -/
theorem ColumnMapping.FileGives.eq_column {mapping : ColumnMapping} {field column : String}
    (gives : mapping.FileGives field column) (lower : mapping.InLowerCase) :
    column = mapping.column field := by
  unfold ColumnMapping.column
  cases gives with
  | lowered listed changed lowers => exact absurd ((lower _ listed).symm.trans lowers) changed
  | kept listed _ _ => rw [lookup_eq_some_of_mem mapping.distinct listed, Option.getD_some]
  | unnamed absent =>
    have unlisted : mapping.entries.lookup field = none := by
      refine lookup_eq_none_iff_forall.mpr fun entry listed same => ?_
      exact absent entry listed ((lower entry listed).trans same)
    rw [unlisted, Option.getD_none]

variable {mapping : ColumnMapping} {entries : List (String × JsonValue)}
  (written : mapping.IsWrittenAs entries)

include written

theorem mem_written {path : String} {value : JsonValue} :
    (path, value) ∈ entries ↔
      ∃ column, value = .string column ∧ (path, column) ∈ mapping.entries := by
  rw [List.Perm.mem_iff written, List.mem_map]
  constructor
  · rintro ⟨⟨field, column⟩, listed, same⟩
    cases same
    exact ⟨column, rfl, listed⟩
  · rintro ⟨column, rfl, listed⟩
    exact ⟨(path, column), listed, rfl⟩

/-- The columns of an object are those of paths in lower case. -/
theorem mem_ofSetting {field column : String}
    (listed : (field, column) ∈ Columns.ofSetting (.object entries)) :
    ∃ path, (path, column) ∈ mapping.entries ∧ Text.lower path = field := by
  obtain ⟨⟨_, value⟩, member, same⟩ := List.mem_map.mp listed
  cases same
  obtain ⟨path, inObject, lowers⟩ := mem_lowerKeys.mp member
  obtain ⟨column, rfl, inMapping⟩ := (mem_written written).mp inObject
  exact ⟨path, inMapping, lowers⟩

theorem fileGives_ofSetting (field : String) :
    mapping.FileGives field (((Columns.ofSetting (.object entries)).lookup field).getD field) := by
  have looked : (Columns.ofSetting (.object entries)).lookup field =
      ((lowerKeys entries).lookup field).map settingText := lookup_map_value settingText
  rw [looked]
  cases found : (lowerKeys entries).lookup field with
  | none =>
    refine .unnamed fun ⟨path, column⟩ listed => ?_
    exact lookup_lowerKeys_eq_none_iff.mp found (path, .string column)
      ((mem_written written).mpr ⟨column, rfl, listed⟩)
  | some value =>
    obtain ⟨path, inObject, lowers, alone⟩ := exists_of_lookup_lowerKeys found
    obtain ⟨column, rfl, listed⟩ := (mem_written written).mp inObject
    by_cases same : path = field
    · subst same
      refine .kept listed lowers fun ⟨other, otherColumn⟩ member lowersToo => ?_
      exact alone rfl (other, .string otherColumn)
        ((mem_written written).mpr ⟨otherColumn, rfl, member⟩) lowersToo
    · exact .lowered listed same lowers

end Files

section Clauses

/-- The lines of two clauses with the same arguments are the same if and only if there are none or
the clauses have the same text. -/
theorem json_eq_iff {first second : Sql.Clause} (arguments : first.arguments = second.arguments) :
    first.json = second.json ↔
      ∀ line, second.json = .ok line → first.text = second.text := by
  unfold Sql.Clause.json
  rw [arguments]
  cases Sql.argumentsJson second.arguments.sorted with
  | error fault => simp [bind, Except.bind]
  | ok found =>
    simp only [bind, Except.bind, pure, Except.pure, Except.ok.injEq, forall_eq']
    constructor
    · intro same
      have quoted : Json.quote true first.text = Json.quote true second.text := by
        simpa [Json.object, Sql.jsonText] using same
      exact Json.quote_inj quoted
    · intro same
      rw [same]

variable {columns : Columns} {filter : String} {after : Sql.Counter}

theorem compileClause_of_ok {clause : Sql.Clause}
    (compiled : Build.outcome (compileText (Sql.backend ⟨columns, "p"⟩) filter) 0 =
      (.ok clause, after)) :
    compileClause columns filter = clause.json.mapError CommandError.encode := by
  have ran : (compileText (Sql.backend ⟨columns, "p"⟩) filter).run.run 0 = (.ok clause, after) :=
    compiled
  rw [compileClause, ran]

theorem compileClause_of_error {error : CompileError NoOperands}
    (failed : Build.outcome (compileText (Sql.backend ⟨columns, "p"⟩) filter) 0 =
      (.error error, after)) :
    compileClause columns filter = .error (.compile error) := by
  have ran : (compileText (Sql.backend ⟨columns, "p"⟩) filter).run.run 0 = (.error error, after) :=
    failed
  rw [compileClause, ran]

theorem mapError_encode_eq_ok_iff {outcome : Except Sql.JsonFault String} {line : String} :
    outcome.mapError CommandError.encode = .ok line ↔ outcome = .ok line := by
  cases outcome <;> simp [Except.mapError]

theorem mapError_encode_inj {first second : Except Sql.JsonFault String} :
    first.mapError CommandError.encode = second.mapError CommandError.encode ↔ first = second := by
  cases first <;> cases second <;> simp [Except.mapError]

/-- A filter has the same line for two mappings if and only if it has none or each of its fields has
the same column in both. -/
theorem compileClause_eq_iff (first second : Columns) (filter : String) :
    compileClause first filter = compileClause second filter ↔
      ∀ expression line, parse filter = .ok expression → compileClause second filter = .ok line →
        ∀ leaf ∈ Expression.leaves .filter expression,
          Sql.quoteColumn ((first.lookup leaf.field).getD leaf.field) =
            Sql.quoteColumn ((second.lookup leaf.field).getD leaf.field) := by
  have named : Sql.isName "p".toList = true := by decide
  have outcomes := @Sql.compileText_naming ⟨first, "p"⟩ ⟨second, "p"⟩ rfl named filter 0
  rcases outcomes with ⟨error, after, failed₁, failed₂⟩ |
    ⟨expression, clause₁, clause₂, after, parsed, compiled₁, compiled₂, arguments, texts⟩
  · rw [compileClause_of_error failed₁, compileClause_of_error failed₂]
    simp
  · rw [compileClause_of_ok compiled₁, compileClause_of_ok compiled₂, mapError_encode_inj,
      json_eq_iff arguments, texts]
    simp only [parsed, mapError_encode_eq_ok_iff, Except.ok.injEq]
    constructor
    · rintro same _ line rfl written
      exact same line written
    · intro same line written
      exact same expression line rfl written

end Clauses

section Runs

/-- The words of a run that makes a filter into a clause. -/
def clauseWords (options ending : List String) : List String :=
  "compile" :: "--backend" :: "postgresql" :: (options ++ ending)

/-- Words that set flags, beside the backend, and do nothing else. -/
def Sets (options : List String) (values : FlagValues) : Prop :=
  values.help = false ∧ values.backend = some "postgresql" ∧
    ∀ rest, readFlags compileFlags { backend := some "postgresql" } (options ++ rest) =
      readFlags compileFlags values rest

/-- What a run with some flags makes of a filter. -/
def compileFilter (surroundings : Surroundings) (values : FlagValues) (filter : String) :
    Except CommandError String := do
  let config ← loadConfig surroundings values
  let line ← compileWith (.resolve surroundings values config) filter
  pure (line ++ "\n")

variable {surroundings : Surroundings} {options options₁ options₂ : List String}
  {values first second : FlagValues} {filter : String}

theorem readFlags_clauseWords (sets : Sets options values) (ending : List String) :
    readFlags compileFlags {} ("--backend" :: "postgresql" :: (options ++ ending)) =
      readFlags compileFlags values ending := by
  have isLong : Word.ofText "--backend" = .long "backend".toList := by rfl
  have isKnown : readLong compileFlags "--backend" "backend".toList = .ok (.backend, none) := by rfl
  rw [← sets.2.2 ending]
  exact readFlags_value isLong isKnown rfl _

/-- A run with a filter after the word that ends the flags compiles that filter. -/
theorem run_clauseWords (sets : Sets options values) (filter : String) :
    run surroundings (clauseWords options ["--", filter]) =
      compileFilter surroundings values filter := by
  have words := readFlags_clauseWords sets ["--", filter]
  have handed : readFlags compileFlags values ["--", filter] = .ok (values, [filter]) := rfl
  have request :
      readRequest (clauseWords options ["--", filter]) = .ok (.compile values filter) := by
    rw [clauseWords, readRequest_compile, readCompile]
    rw [compileFlags] at words handed
    simp [words, handed, sets.1]
  rw [run, request]
  rfl

/-- Runs whose flags lead to the same outcome for a filter have the same outcome, in whichever way
the filter is handed over. -/
theorem run_eq_of_compileFilter_eq (sets₁ : Sets options₁ first) (sets₂ : Sets options₂ second)
    (same : compileFilter surroundings first filter = compileFilter surroundings second filter)
    {ending : List String} (ends : ending ∈ [[filter], ["--", filter]]) :
    run surroundings (clauseWords options₁ ending) =
      run surroundings (clauseWords options₂ ending) := by
  have handed := handsOver_of_ending (sets₁.1.trans sets₂.1.symm) compileFlags ends
  rw [← readFlags_clauseWords sets₁, ← readFlags_clauseWords sets₂, compileFlags] at handed
  unfold run
  simp only [clauseWords, readRequest_compile, readCompile]
  generalize readFlags _ _ ("--backend" :: "postgresql" :: (options₁ ++ ending)) = outcome₁
    at handed ⊢
  generalize readFlags _ _ ("--backend" :: "postgresql" :: (options₂ ++ ending)) = outcome₂
    at handed ⊢
  cases handed with
  | filter =>
    simp only [sets₁.1, sets₂.1]
    exact same
  | error => rfl
  | nothing help => simp only [help]

theorem sets_config (path : String) :
    Sets ["--config", path] { backend := some "postgresql", config := some path } := by
  have isLong : Word.ofText "--config" = .long "config".toList := by rfl
  have isKnown : readLong compileFlags "--config" "config".toList = .ok (.config, none) := by rfl
  exact ⟨rfl, rfl, readFlags_value isLong isKnown rfl⟩

theorem exists_sets_flags (mapping : ColumnMapping) :
    ∃ values, Sets mapping.flags values ∧ values.config = none ∧
      values.columns.getD [] = mapping.entries := by
  obtain ⟨columns, collected, read⟩ :=
    @readFlags_columns { backend := some "postgresql" } mapping.entries mapping.plain
      mapping.distinct
  exact ⟨{ backend := some "postgresql", columns := columns }, ⟨rfl, rfl, read⟩, rfl, collected⟩

/-- A file offers a mapping if it is read as an object with the mapping in it, and if no variable
decides instead. -/
structure Surroundings.Offers (surroundings : Surroundings) (path : String)
    (mapping : ColumnMapping) : Prop where
  noColumns : surroundings.setting? "AIPFILTER_COLUMN" = none
  noConfig : surroundings.setting? "AIPFILTER_CONFIG" = none
  isJson : extension path = "json"
  reads : ∃ text fields, surroundings.readFile path = some text ∧
    JsonValue.read? text = some (.object fields) ∧ mapping.IsColumnOf fields

/-- The object of a mapping. -/
def ColumnMapping.objectText (mapping : ColumnMapping) : String :=
  Json.object false (mapping.entries.map fun entry => (entry.1, Json.quote false entry.2))

/-- A file for a mapping. -/
def ColumnMapping.fileText (mapping : ColumnMapping) : String :=
  Json.object false [("column", mapping.objectText)]

theorem ColumnMapping.read?_fileText (mapping : ColumnMapping) :
    JsonValue.read? mapping.fileText = some (.object [("column", .object
      (mapping.entries.map fun entry => (entry.1, .string entry.2)))]) := by
  have columns : Json.Spells mapping.objectText
      (.object (mapping.entries.map fun entry => (entry.1, .string entry.2))) := by
    apply Json.spells_object
    rw [List.forall₂_map_left_iff, List.forall₂_map_right_iff, List.forall₂_same]
    exact fun entry _ => ⟨rfl, Json.spells_quote false entry.2⟩
  apply Json.Spells.read?
  apply Json.spells_object
  exact .cons ⟨rfl, columns⟩ .nil

/-- Every mapping can be offered. -/
theorem offers_of_fileText {path : String} {mapping : ColumnMapping}
    (noColumns : surroundings.setting? "AIPFILTER_COLUMN" = none)
    (noConfig : surroundings.setting? "AIPFILTER_CONFIG" = none)
    (isJson : extension path = "json")
    (present : surroundings.readFile path = some mapping.fileText) :
    surroundings.Offers path mapping := by
  have lower : Text.lower "column" = "column" := by decide +kernel
  refine ⟨noColumns, noConfig, isJson, _, _, present, mapping.read?_fileText, "column", _,
    List.Perm.refl _, ?_⟩
  simp [lower]

/-- What a run prints once its settings are known. -/
theorem compileFilter_of_resolve {config : Config} {columns : Columns}
    (loaded : loadConfig surroundings values = .ok config)
    (resolved : Settings.resolve surroundings values config = ⟨"postgresql", columns⟩)
    (filter : String) :
    compileFilter surroundings values filter =
      (compileClause columns filter).map (· ++ "\n") := by
  have compiled : compileWith ⟨"postgresql", columns⟩ filter = compileClause columns filter := rfl
  rw [compileFilter, loaded]
  simp only [bind, Except.bind, resolved, compiled]
  cases compileClause columns filter <;> rfl

/-- Flags that make up a mapping lead to the clause with its columns. -/
theorem compileFilter_flags (noColumns : surroundings.setting? "AIPFILTER_COLUMN" = none)
    (noConfig : surroundings.setting? "AIPFILTER_CONFIG" = none) (mapping : ColumnMapping)
    (backend : values.backend = some "postgresql") (config : values.config = none)
    (columns : values.columns.getD [] = mapping.entries) (filter : String) :
    compileFilter surroundings values filter =
      (compileClause mapping.entries filter).map (· ++ "\n") := by
  have loaded : loadConfig surroundings values = .ok [] := by
    simp [loadConfig, configPath?, config, noConfig]
  refine compileFilter_of_resolve loaded ?_ filter
  cases given : values.columns with
  | none =>
    rw [given, Option.getD_none] at columns
    simp [Settings.resolve, backend, given, noColumns, ← columns, Config.find?]
  | some found =>
    rw [given, Option.getD_some] at columns
    simp [Settings.resolve, backend, given, columns, mapping.ofText_text]

/-- An object of a file is loaded with its keys in lower case. -/
theorem loadConfig_json {path text : String} {fields : List (String × JsonValue)}
    (config : values.config = some path) (isJson : extension path = "json")
    (present : surroundings.readFile path = some text)
    (isObject : JsonValue.read? text = some (.object fields)) :
    loadConfig surroundings values = .ok (lowerKeys fields) := by
  have nonempty : path ≠ "" := by
    rintro rfl
    exact absurd isJson (by decide)
  have isPath : configPath? surroundings values = some path := by
    simp [configPath?, config, Option.filter, nonempty]
  have supported : supportedExtensions.contains (extension path) = true := by
    rw [isJson]
    decide
  have areFields : surroundings.fields? (extension path) text = some fields := by
    rw [Surroundings.fields?, if_pos isJson, jsonFields?, isObject]
  have read : readConfig surroundings path = .ok (lowerKeys fields) := by
    rw [readConfig, if_pos supported, present]
    simp only [areFields]
  simp only [loadConfig, isPath, read, Except.mapError]

/-- A file leads to the clause with the columns of its object. -/
theorem exists_compileFilter_file {path : String} {mapping : ColumnMapping}
    (offers : surroundings.Offers path mapping) :
    ∃ entries : List (String × JsonValue), mapping.IsWrittenAs entries ∧
      ∀ filter, compileFilter surroundings { backend := some "postgresql", config := some path }
        filter = (compileClause (Columns.ofSetting (.object entries)) filter).map (· ++ "\n") := by
  obtain ⟨text, fields, present, isObject, isColumn⟩ := offers.reads
  obtain ⟨entries, written, found⟩ := isColumn.lookup
  refine ⟨entries, written, fun filter => ?_⟩
  have loaded := @loadConfig_json surroundings { backend := some "postgresql", config := some path }
    path text fields rfl offers.isJson present isObject
  refine compileFilter_of_resolve loaded ?_ filter
  simp [Settings.resolve, offers.noColumns, Config.find?, found]

end Runs

/-- The mapping of an object, with all paths in lower case. Of several columns for one path, the
first counts. -/
def ColumnMapping.lowered (mapping : ColumnMapping) (entries : List (String × JsonValue))
    (written : mapping.IsWrittenAs entries) :
    ColumnMapping where
  entries := (Columns.ofSetting (.object entries)).firstOnly
  distinct := Columns.nodup_firstOnly _
  plain := by
    rintro ⟨field, column⟩ listed
    obtain ⟨path, member, rfl⟩ := mem_ofSetting written (Columns.mem_firstOnly listed)
    obtain ⟨plainPath, plainColumn⟩ := mapping.plain _ member
    exact ⟨plainPath.lower, plainColumn⟩

section Lowered

variable {mapping : ColumnMapping} {entries : List (String × JsonValue)}
  (written : mapping.IsWrittenAs entries)

theorem fileGives_lowered (field : String) :
    mapping.FileGives field ((mapping.lowered entries written).column field) := by
  rw [ColumnMapping.column, ColumnMapping.lowered, Columns.lookup_firstOnly]
  exact fileGives_ofSetting written field

theorem compileClause_lowered (filter : String) :
    compileClause (Columns.ofSetting (.object entries)) filter =
      compileClause (mapping.lowered entries written).entries filter := by
  rw [compileClause_eq_iff]
  intro _ _ _ _ leaf _
  rw [ColumnMapping.lowered, Columns.lookup_firstOnly]

end Lowered

section Comparison

variable {surroundings : Surroundings}

theorem map_newline_inj {first second : Except CommandError String} :
    first.map (· ++ "\n") = second.map (· ++ "\n") ↔ first = second := by
  cases first <;> cases second <;> simp [Except.map]

theorem map_newline_eq_ok_iff {outcome : Except CommandError String} {line : String} :
    outcome.map (· ++ "\n") = .ok line ↔ ∃ found, outcome = .ok found ∧ found ++ "\n" = line := by
  cases outcome <;> simp [Except.map]

/-- Options give columns if every filter becomes the clause with these columns. -/
def Gives (surroundings : Surroundings) (options : List String) (columns : Columns) : Prop :=
  ∃ values, Sets options values ∧ ∀ filter,
    compileFilter surroundings values filter = (compileClause columns filter).map (· ++ "\n")

variable {options₁ options₂ : List String} {columns₁ columns₂ : Columns}

theorem Gives.run {options : List String} {columns : Columns}
    (gives : Gives surroundings options columns) (filter : String) :
    Command.run surroundings (clauseWords options ["--", filter]) =
      (compileClause columns filter).map (· ++ "\n") := by
  obtain ⟨values, sets, printed⟩ := gives
  rw [run_clauseWords sets, printed]

/-- Runs with clauses that are always the same have the same outcome. -/
theorem Gives.run_eq (gives₁ : Gives surroundings options₁ columns₁)
    (gives₂ : Gives surroundings options₂ columns₂) {filter : String}
    (same : compileClause columns₁ filter = compileClause columns₂ filter)
    {ending : List String} (ends : ending ∈ [[filter], ["--", filter]]) :
    Command.run surroundings (clauseWords options₁ ending) =
      Command.run surroundings (clauseWords options₂ ending) := by
  obtain ⟨values₁, sets₁, printed₁⟩ := gives₁
  obtain ⟨values₂, sets₂, printed₂⟩ := gives₂
  refine run_eq_of_compileFilter_eq sets₁ sets₂ ?_ ends
  rw [printed₁, printed₂, same]

/-- Runs have the same outcome if and only if the filter has none or each of its fields has the same
column in both. -/
theorem Gives.run_eq_iff (gives₁ : Gives surroundings options₁ columns₁)
    (gives₂ : Gives surroundings options₂ columns₂) (filter : String) :
    Command.run surroundings (clauseWords options₁ ["--", filter]) =
        Command.run surroundings (clauseWords options₂ ["--", filter]) ↔
      ∀ expression line, parse filter = .ok expression →
        Command.run surroundings (clauseWords options₂ ["--", filter]) = .ok line →
        ∀ leaf ∈ Expression.leaves .filter expression,
          Sql.quoteColumn ((columns₁.lookup leaf.field).getD leaf.field) =
            Sql.quoteColumn ((columns₂.lookup leaf.field).getD leaf.field) := by
  rw [gives₁.run, gives₂.run, map_newline_inj, compileClause_eq_iff]
  simp only [map_newline_eq_ok_iff]
  constructor
  · rintro same expression _ parsed ⟨line, compiled, rfl⟩
    exact same expression line parsed compiled
  · intro same expression line parsed compiled
    exact same expression _ parsed ⟨line, compiled, rfl⟩

variable {path : String} {mapping : ColumnMapping}

theorem Surroundings.Offers.gives_flags (offers : surroundings.Offers path mapping)
    (other : ColumnMapping) : Gives surroundings other.flags other.entries := by
  obtain ⟨values, sets, config, columns⟩ := exists_sets_flags other
  exact ⟨values, sets,
    compileFilter_flags offers.noColumns offers.noConfig other sets.2.1 config columns⟩

theorem Surroundings.Offers.exists_gives_file (offers : surroundings.Offers path mapping) :
    ∃ lowered : ColumnMapping, (∀ field, mapping.FileGives field (lowered.column field)) ∧
      Gives surroundings ["--config", path] lowered.entries := by
  obtain ⟨entries, written, printed⟩ := exists_compileFilter_file offers
  refine ⟨mapping.lowered entries written, fileGives_lowered written, _, sets_config path, ?_⟩
  intro filter
  rw [printed, compileClause_lowered written]

end Comparison

/-- A file means what flags mean for paths in lower case. If all paths of the mapping are in lower
case, then a run with the file and a run with the flags have the same outcome for every filter.
Otherwise they have it for the filters that fail and for those whose fields have the same columns
either way. -/
theorem file_columns_in_lower_case {surroundings : Surroundings} {path : String}
    {mapping : ColumnMapping} (offers : surroundings.Offers path mapping) :
    (mapping.InLowerCase → ∀ filter, ∀ ending ∈ [[filter], ["--", filter]],
      run surroundings (clauseWords ["--config", path] ending) =
        run surroundings (clauseWords mapping.flags ending)) ∧
    ∃ lowered : ColumnMapping, (∀ field, mapping.FileGives field (lowered.column field)) ∧
      (∀ filter, ∀ ending ∈ [[filter], ["--", filter]],
        run surroundings (clauseWords ["--config", path] ending) =
          run surroundings (clauseWords lowered.flags ending)) ∧
      ∀ filter,
        run surroundings (clauseWords ["--config", path] ["--", filter]) =
            run surroundings (clauseWords mapping.flags ["--", filter]) ↔
          ∀ expression line, parse filter = .ok expression →
            run surroundings (clauseWords mapping.flags ["--", filter]) = .ok line →
            ∀ leaf ∈ Expression.leaves .filter expression,
              Sql.quoteColumn (lowered.column leaf.field) =
                Sql.quoteColumn (mapping.column leaf.field) := by
  obtain ⟨lowered, fileGives, byFile⟩ := offers.exists_gives_file
  have byFlags := offers.gives_flags mapping
  refine ⟨fun inLowerCase filter ending ends => ?_, lowered, fileGives,
    fun filter ending ends => byFile.run_eq (offers.gives_flags lowered) rfl ends,
    byFile.run_eq_iff byFlags⟩
  -- For paths in lower case nothing is lost, so the clauses have the same columns.
  refine byFile.run_eq byFlags ?_ ends
  rw [compileClause_eq_iff]
  intro _ _ _ _ leaf _
  exact congrArg Sql.quoteColumn ((fileGives leaf.field).eq_column inLowerCase)

/-- Two paths, one of them not in lower case. -/
def userColumns : ColumnMapping where
  entries := [("userName", "user_name"), ("id", "user_id")]
  distinct := by decide
  plain := List.all_iff_forall_prop.mp (by decide +kernel)

/-- Surroundings with a file for these columns. -/
def userFile : Surroundings where
  lookupVariable _ := none
  readFile path := if path = "user.json" then some userColumns.fileText else none
  decode _ _ := none
  complaint _ _ := ""

theorem userFile_offers : userFile.Offers "user.json" userColumns :=
  offers_of_fileText rfl rfl (by decide) rfl

theorem lower_userColumns : Text.lower "userName" = "username" ∧ Text.lower "id" = "id" := by
  decide +kernel

/-- The file has no column for the path that is not in lower case. -/
theorem fileGives_userName {column : String} (gives : userColumns.FileGives "userName" column) :
    column = "userName" := by
  have changed : ∀ entry ∈ userColumns.entries, Text.lower entry.1 ≠ "userName" := by
    simp [userColumns, lower_userColumns]
  cases gives with
  | @lowered path column listed _ lowers => exact (changed (path, column) listed lowers).elim
  | @kept column listed lower _ => exact (changed ("userName", column) listed lower).elim
  | unnamed _ => rfl

/-- The other path keeps its column. -/
theorem fileGives_id {column : String} (gives : userColumns.FileGives "id" column) :
    column = "user_id" := by
  have only : ∀ entry ∈ userColumns.entries,
      Text.lower entry.1 = "id" → entry = ("id", "user_id") := by
    simp [userColumns, lower_userColumns]
  cases gives with
  | lowered listed changed lowers =>
    cases only _ listed lowers
    exact absurd rfl changed
  | kept listed lower _ =>
    cases only _ listed lower
    rfl
  | unnamed absent => exact absurd lower_userColumns.2 (absent ("id", "user_id") (by decide))

theorem parse_userName :
    parse "userName = 1" = .ok [[[.mk false (.compare ⟨⟨.text, "userName", 0⟩, []⟩ "="
      (some ⟨⟨.integer, "1", 11⟩, []⟩))]]] := rfl

/-- The line for a filter with a path that is not in lower case. -/
theorem compileClause_userName (columns : Columns) :
    compileClause columns "userName = 1" =
      .ok (Json.object true
        [("sql", Sql.jsonText (Sql.comparisonText .equal
          (Sql.quoteColumn ((columns.lookup "userName").getD "userName")) "@p1")),
         ("args", "\x7b\"p1\":1\x7d")]) := by
  have compiled : Build.outcome (compileText (Sql.backend ⟨columns, "p"⟩) "userName = 1") 0 =
      (.ok ⟨Sql.comparisonText .equal (Sql.Options.column ⟨columns, "p"⟩ "userName") "@p1",
        [("p1", .integer .int32 1)], .comparison⟩, 1) := by
    rw [compileText, parse_userName]
    rfl
  rw [compileClause_of_ok compiled, Sql.Clause.json, Sql.Arguments.sorted, List.mergeSort_singleton]
  rfl

/-- A file and flags agree on a filter with a path in lower case, but not on the other. -/
theorem user_columns_in_lower_case :
    userFile.Offers "user.json" userColumns ∧
    run userFile (clauseWords ["--config", "user.json"] ["--", "id = 1"]) =
      run userFile (clauseWords userColumns.flags ["--", "id = 1"]) ∧
    run userFile (clauseWords ["--config", "user.json"] ["--", "userName = 1"]) ≠
      run userFile (clauseWords userColumns.flags ["--", "userName = 1"]) := by
  obtain ⟨-, lowered, gives, -, agree⟩ := file_columns_in_lower_case userFile_offers
  refine ⟨userFile_offers, ?_, ?_⟩
  · rw [agree "id = 1"]
    have parsed : parse "id = 1" = .ok [[[.mk false (.compare ⟨⟨.text, "id", 0⟩, []⟩ "="
        (some ⟨⟨.integer, "1", 5⟩, []⟩))]]] := rfl
    intro expression line isParsed _ leaf listed
    rw [parsed] at isParsed
    cases isParsed
    obtain rfl := List.mem_singleton.mp listed
    exact congrArg Sql.quoteColumn (fileGives_id (gives "id"))
  · intro same
    obtain ⟨line, printed⟩ : ∃ line,
        run userFile (clauseWords userColumns.flags ["--", "userName = 1"]) = .ok line := by
      rw [(userFile_offers.gives_flags userColumns).run, compileClause_userName]
      exact ⟨_, rfl⟩
    have everywhere := (agree "userName = 1").mp same _ line parse_userName printed
    have columns : Sql.quoteColumn (lowered.column "userName") =
        Sql.quoteColumn (userColumns.column "userName") :=
      everywhere ⟨"userName", .equal, ⟨⟨.integer, "1", 11⟩, []⟩⟩ List.mem_cons_self
    rw [fileGives_userName (gives "userName")] at columns
    exact absurd columns (by decide)

/-- The letter case of a path is lost in a file, and the path with it. -/
theorem user_column_lost_in_file :
    userFile.Offers "user.json" userColumns ∧
    run userFile (clauseWords ["--config", "user.json"] ["--", "userName = 1"]) =
      .ok "\x7b\"sql\":\"\\\"userName\\\" = @p1\",\"args\":\x7b\"p1\":1\x7d\x7d\n" ∧
    run userFile (clauseWords userColumns.flags ["--", "userName = 1"]) =
      .ok "\x7b\"sql\":\"\\\"user_name\\\" = @p1\",\"args\":\x7b\"p1\":1\x7d\x7d\n" := by
  obtain ⟨lowered, gives, byFile⟩ := userFile_offers.exists_gives_file
  have lost : (lowered.entries.lookup "userName").getD "userName" = "userName" :=
    fileGives_userName (gives "userName")
  refine ⟨userFile_offers, ?_, ?_⟩
  · rw [byFile.run, compileClause_userName, lost]
    rfl
  · rw [(userFile_offers.gives_flags userColumns).run, compileClause_userName]
    rfl

end FilterQuery.Command
