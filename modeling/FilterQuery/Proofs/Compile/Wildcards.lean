import FilterQuery.Compile.Backend
import Mathlib.Data.List.Basic

/-!
# Texts with a wildcard

An equality with a text asks for more than the text if the text has one wildcard, at its start or
its end, and something beside it. `AskedFor` says which texts are asked for, without a look at how
the wildcard is found; `askedFor_iff_admits` says that the three forms of an equality ask for them.
-/

namespace FilterQuery

/-- A question that gets an answer, and the right one. -/
def Decides (answer : Option Bool) (statement : Prop) : Prop :=
  answer ≠ none ∧ (answer = some true ↔ statement)

theorem decides_some {verdict : Bool} {statement : Prop} (right : verdict = true ↔ statement) :
    Decides (some verdict) statement := by
  constructor
  · simp
  · rw [Option.some.injEq, right]

/-- A text starts with another if its characters do. -/
theorem exists_append_iff (start text : String) :
    (∃ rest, text = start ++ rest) ↔ ∃ rest, text.toList = start.toList ++ rest := by
  constructor
  · rintro ⟨rest, rfl⟩
    exact ⟨rest.toList, String.toList_append⟩
  · rintro ⟨rest, isText⟩
    refine ⟨String.ofList rest, ?_⟩
    rw [← String.toList_inj, String.toList_append, String.toList_ofList, isText]

/-- A text ends with another if its characters do. -/
theorem exists_prepend_iff (stop text : String) :
    (∃ rest, text = rest ++ stop) ↔ ∃ rest, text.toList = rest ++ stop.toList := by
  constructor
  · rintro ⟨rest, rfl⟩
    exact ⟨rest.toList, String.toList_append⟩
  · rintro ⟨rest, isText⟩
    refine ⟨String.ofList rest, ?_⟩
    rw [← String.toList_inj, String.toList_append, String.toList_ofList, isText]

/-- What may stand beside a wildcard: some text without a wildcard of its own. -/
def IsStem (stem : String) : Prop := stem ≠ "" ∧ '*' ∉ stem.toList

/-- An equality with `wanted` asks for a text: one that starts with what stands before a wildcard at
the end, one that ends with what stands after a wildcard at the start, or else `wanted` itself. -/
def AskedFor (wanted text : String) : Prop :=
  (∃ stem, IsStem stem ∧ wanted = stem ++ "*" ∧ ∃ rest, text = stem ++ rest) ∨
  (∃ stem, IsStem stem ∧ wanted = "*" ++ stem ∧ ∃ rest, text = rest ++ stem) ∨
  ((∀ stem, IsStem stem → wanted ≠ stem ++ "*" ∧ wanted ≠ "*" ++ stem) ∧ text = wanted)

theorem prefixPattern_append (stem : String) : prefixPattern (stem ++ "*") = stem := by
  simp [prefixPattern]

theorem suffixPattern_append (stem : String) : suffixPattern ("*" ++ stem) = stem := by
  simp [suffixPattern]

namespace IsStem

variable {stem : String} (isStem : IsStem stem)

include isStem

theorem length_pos : 0 < stem.toList.length := by
  rw [List.length_pos_iff]
  simpa using isStem.1

theorem count_eq_zero : stem.toList.count '*' = 0 := List.count_eq_zero_of_not_mem isStem.2

theorem ofText_before : WildcardForm.ofText (stem ++ "*") = .startsWith (stem ++ "*") := by
  have long := isStem.length_pos
  have unmarked := isStem.count_eq_zero
  simp [WildcardForm.ofText, unmarked, long]

theorem ofText_after : WildcardForm.ofText ("*" ++ stem) = .endsWith ("*" ++ stem) := by
  have long := isStem.length_pos
  have unmarked := isStem.count_eq_zero
  -- The last character belongs to the stem, so it is no wildcard.
  have last : ('*' :: stem.toList).getLast? ≠ some '*' := by
    rw [List.getLast?_cons_of_ne_nil (List.length_pos_iff.mp long)]
    exact fun isLast => isStem.2 (List.mem_of_getLast? isLast)
  simp [WildcardForm.ofText, unmarked, long, last]

end IsStem

theorem isStem_ofList {characters : List Char} (long : 0 < characters.length)
    (unmarked : characters.count '*' = 0) : IsStem (String.ofList characters) := by
  constructor
  · intro isEmpty
    have nil : characters = [] := by simpa using congrArg String.toList isEmpty
    simp [nil] at long
  · simpa [List.count_eq_zero] using unmarked

theorem exists_stem_of_startsWith {wanted literal : String}
    (form : WildcardForm.ofText wanted = .startsWith literal) :
    literal = wanted ∧ ∃ stem, IsStem stem ∧ wanted = stem ++ "*" := by
  simp only [WildcardForm.ofText] at form
  split_ifs at form with single last first
  cases form
  obtain ⟨before, isWanted⟩ := List.getLast?_eq_some_iff.mp last
  have counts : 0 < before.length ∧ before.count '*' = 0 := by simpa [isWanted] using single
  refine ⟨rfl, String.ofList before, isStem_ofList counts.1 counts.2, ?_⟩
  rw [← String.toList_inj]
  simpa using isWanted

theorem exists_stem_of_endsWith {wanted literal : String}
    (form : WildcardForm.ofText wanted = .endsWith literal) :
    literal = wanted ∧ ∃ stem, IsStem stem ∧ wanted = "*" ++ stem := by
  simp only [WildcardForm.ofText] at form
  split_ifs at form with single last first
  cases form
  obtain ⟨after, isWanted⟩ := List.head?_eq_some_iff.mp first
  have counts : 0 < after.length ∧ after.count '*' = 0 := by simpa [isWanted] using single
  refine ⟨rfl, String.ofList after, isStem_ofList counts.1 counts.2, ?_⟩
  rw [← String.toList_inj]
  simpa using isWanted

/-- A form of an equality with `wanted` admits a text. -/
def WildcardForm.Admits (wanted text : String) : WildcardForm → Prop
  | .startsWith literal => ∃ rest, text = prefixPattern literal ++ rest
  | .endsWith literal => ∃ rest, text = rest ++ suffixPattern literal
  | .plain => text = wanted

/-- The form of an equality admits exactly the texts that the equality asks for. -/
theorem askedFor_iff_admits (wanted text : String) :
    AskedFor wanted text ↔ (WildcardForm.ofText wanted).Admits wanted text := by
  constructor
  · rintro (⟨stem, isStem, rfl, starts⟩ | ⟨stem, isStem, rfl, ends⟩ | ⟨noStem, rfl⟩)
    · rw [isStem.ofText_before, WildcardForm.Admits, prefixPattern_append]
      exact starts
    · rw [isStem.ofText_after, WildcardForm.Admits, suffixPattern_append]
      exact ends
    · cases form : WildcardForm.ofText text with
      | startsWith literal =>
        obtain ⟨-, stem, isStem, isText⟩ := exists_stem_of_startsWith form
        exact absurd isText (noStem stem isStem).1
      | endsWith literal =>
        obtain ⟨-, stem, isStem, isText⟩ := exists_stem_of_endsWith form
        exact absurd isText (noStem stem isStem).2
      | plain => rfl
  · intro admits
    cases form : WildcardForm.ofText wanted with
    | startsWith literal =>
      obtain ⟨rfl, stem, isStem, rfl⟩ := exists_stem_of_startsWith form
      rw [form, WildcardForm.Admits, prefixPattern_append] at admits
      exact .inl ⟨stem, isStem, rfl, admits⟩
    | endsWith literal =>
      obtain ⟨rfl, stem, isStem, rfl⟩ := exists_stem_of_endsWith form
      rw [form, WildcardForm.Admits, suffixPattern_append] at admits
      exact .inr (.inl ⟨stem, isStem, rfl, admits⟩)
    | plain =>
      rw [form, WildcardForm.Admits] at admits
      refine .inr (.inr ⟨fun stem isStem => ⟨?_, ?_⟩, admits⟩)
      · rintro rfl
        rw [isStem.ofText_before] at form
        cases form
      · rintro rfl
        rw [isStem.ofText_after] at form
        cases form

end FilterQuery
