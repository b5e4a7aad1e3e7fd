import FilterQuery.Command.Run
import FilterQuery.Proofs.Command.Columns

/-!
# Reading the words of a run

Flags with a value are read one after the other, and the flags of a mapping make up the mapping. A
filter is handed over as the last word, if that is no flag, or after the word that ends the flags;
what the flags were set to before has no part in that.
-/

namespace FilterQuery.Command

section Words

/-- The flags of the compile command. -/
def compileFlags : List Flag := .backend :: .column :: commonFlags

variable {known : List Flag} {values : FlagValues}

/-- A flag that needs a value takes the next word for it. -/
theorem readFlags_value {word value : String} {text : List Char} {flag : Flag} {after : FlagValues}
    (isLong : Word.ofText word = .long text) (isKnown : readLong known word text = .ok (flag, none))
    (isSet : values.set flag value = .ok after) (rest : List String) :
    readFlags known values (word :: value :: rest) = readFlags known after rest := by
  simp only [readFlags, isLong, isKnown, isSet]

/-- The command may be the first word. -/
theorem readRequest_compile (words : List String) :
    readRequest ("compile" :: words) = readCompile words := by
  have takesNone : takesNext "compile" = false := by decide
  have isCommand : plainWords ("compile" :: words) = "compile" :: plainWords words := by
    rw [plainWords.eq_def]
    simp [takesNone]
  have removed : removeCommand "compile" ("compile" :: words) = words := by
    rw [removeCommand.eq_def]
    simp [takesNone]
  simp only [readRequest, isCommand, removed]

/-- The flags of a mapping make up the mapping, behind what had been set before. -/
theorem readFlags_columns {entries : Columns}
    (plain : ∀ entry ∈ entries, IsPlainName entry.1 ∧ IsPlainName entry.2)
    (distinct : ((values.columns.getD [] ++ entries).map Prod.fst).Nodup) :
    ∃ columns, columns.getD [] = values.columns.getD [] ++ entries ∧
      ∀ rest, readFlags compileFlags values
          (entries.flatMap (fun (field, column) => ["--column", field ++ "=" ++ column]) ++ rest) =
        readFlags compileFlags { values with columns := columns } rest := by
  induction entries generalizing values with
  | nil => exact ⟨values.columns, (List.append_nil _).symm, fun _ => rfl⟩
  | cons entry entries inductionHypothesis =>
    obtain ⟨field, column⟩ := entry
    obtain ⟨⟨plainField, plainColumn⟩, plainRest⟩ := List.forall_mem_cons.mp plain
    have moved : values.columns.getD [] ++ (field, column) :: entries =
        values.columns.getD [] ++ [(field, column)] ++ entries := by simp
    rw [moved] at distinct ⊢
    have added : Columns.merge (values.columns.getD []) [(field, column)] =
        values.columns.getD [] ++ [(field, column)] := by
      apply Columns.merge_of_distinct
      rw [List.map_append] at distinct
      exact distinct.of_append_left
    have isSet : values.set .column (field ++ "=" ++ column) =
        .ok { values with columns := some (values.columns.getD [] ++ [(field, column)]) } := by
      simp only [FlagValues.set, ofFlag_pair plainField plainColumn, added]
    obtain ⟨columns, collected, read⟩ := @inductionHypothesis
      { values with columns := some (values.columns.getD [] ++ [(field, column)]) } plainRest
      distinct
    refine ⟨columns, collected, fun rest => ?_⟩
    have isLong : Word.ofText "--column" = .long "column".toList := by rfl
    have isKnown : readLong compileFlags "--column" "column".toList = .ok (.column, none) := by rfl
    rw [← read rest]
    exact readFlags_value isLong isKnown isSet _

end Words

section LastWord

/-- What becomes of the last words under two settings of the flags: they hand over a filter, or the
run ends in the same way without one. -/
inductive HandsOver (first second : FlagValues) (filter : String) :
    Except ArgumentError (FlagValues × List String) →
      Except ArgumentError (FlagValues × List String) → Prop where
  | filter : HandsOver first second filter (.ok (first, [filter])) (.ok (second, [filter]))
  | error {error} : HandsOver first second filter (.error error) (.error error)
  | nothing {after₁ after₂ : FlagValues} (help : after₁.help = after₂.help) :
      HandsOver first second filter (.ok (after₁, [])) (.ok (after₂, []))

/-- A flag is refused, or set, whatever the others are set to. -/
inductive SetAlike : Except ArgumentError FlagValues → Except ArgumentError FlagValues → Prop where
  | error {error} : SetAlike (.error error) (.error error)
  | ok {first second : FlagValues} (help : first.help = second.help) :
      SetAlike (.ok first) (.ok second)

variable {first second : FlagValues}

theorem FlagValues.set_alike (help : first.help = second.help) (flag : Flag) (value : String) :
    SetAlike (first.set flag value) (second.set flag value) := by
  cases flag with
  | config => exact .ok help
  | backend => exact .ok help
  | column =>
    simp only [FlagValues.set]
    cases Columns.ofFlag value with
    | ok columns => exact .ok help
    | error fault => exact .error
  | verbose =>
    simp only [FlagValues.set]
    cases readSwitch value with
    | ok switch => exact .ok help
    | error reason => exact .error
  | help =>
    simp only [FlagValues.set]
    cases readSwitch value with
    | ok switch => exact .ok rfl
    | error reason => exact .error

theorem readLetters_alike (help : first.help = second.help) (known : List Flag) (text : List Char) :
    SetAlike (readLetters known first text) (readLetters known second text) := by
  induction text generalizing first second with
  | nil => exact .ok help
  | cons letter rest inductionHypothesis =>
    unfold readLetters
    split
    · exact .ok help
    · split
      · exact .error
      · next flag _ =>
        split
        · exact FlagValues.set_alike help flag _
        · have alike := FlagValues.set_alike help flag "true"
          generalize first.set flag "true" = set₁ at alike ⊢
          generalize second.set flag "true" = set₂ at alike ⊢
          cases alike with
          | error => exact .error
          | ok help => exact inductionHypothesis help

/-- A filter is handed over as the last word, if that is no flag, or after the word that ends the
flags. -/
theorem handsOver_of_ending (help : first.help = second.help) (known : List Flag) {filter : String}
    {ending : List String} (ends : ending ∈ [[filter], ["--", filter]]) :
    HandsOver first second filter (readFlags known first ending)
      (readFlags known second ending) := by
  rcases List.mem_pair.mp ends with rfl | rfl
  · unfold readFlags
    cases Word.ofText filter with
    | plain => exact .filter
    | dashes => exact .nothing help
    | letters text =>
      have alike := readLetters_alike help known text
      dsimp only
      generalize readLetters known first text = set₁ at alike ⊢
      generalize readLetters known second text = set₂ at alike ⊢
      cases alike with
      | error => exact .error
      | ok help => exact .nothing help
    | long text =>
      dsimp only
      cases readLong known filter text with
      | error error => exact .error
      | ok found =>
        obtain ⟨flag, value | value⟩ := found
        · exact .error
        · have alike := FlagValues.set_alike help flag value
          dsimp only
          generalize first.set flag value = set₁ at alike ⊢
          generalize second.set flag value = set₂ at alike ⊢
          cases alike with
          | error => exact .error
          | ok help => exact .nothing help
  · exact .filter

end LastWord

end FilterQuery.Command
