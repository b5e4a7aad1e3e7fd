import FilterQuery.Proofs.Compile.Wildcards
import FilterQuery.Sql.Clause
import Mathlib.Data.List.Infix

/-!
# Patterns

How a database matches the pattern of `LIKE`: a percent sign stands for any text, an underscore for
any one character, and a backslash makes the character behind it stand for itself. A pattern is
matched against a text as a whole, and is no pattern if it ends with a lone backslash.

An escaped text stands for itself before and behind whatever else a pattern has.
-/

namespace FilterQuery.Sql

/-- A symbol of a pattern. -/
inductive LikeSymbol where
  | anyText
  | anyCharacter
  | character (c : Char)
deriving DecidableEq, Repr

namespace LikeSymbol

/-- The symbols of a pattern. -/
def readAll? : List Char → Option (List LikeSymbol)
  | [] => some []
  | ['\\'] => none
  | '\\' :: c :: rest => (readAll? rest).map (.character c :: ·)
  | '%' :: rest => (readAll? rest).map (.anyText :: ·)
  | '_' :: rest => (readAll? rest).map (.anyCharacter :: ·)
  | c :: rest => (readAll? rest).map (.character c :: ·)

/-- Whether symbols match the whole of a text. -/
def matchAll : List LikeSymbol → List Char → Bool
  | [], text => text.isEmpty
  | .anyText :: rest, text => text.tails.any (matchAll rest)
  | .anyCharacter :: rest, _ :: text => matchAll rest text
  | .character c :: rest, d :: text => c == d && matchAll rest text
  | _ :: _, [] => false

/-- An escaped text is read as its characters, whatever follows. -/
theorem readAll?_escapeLike (text : String) (rest : List Char) :
    readAll? ((escapeLike text).toList ++ rest) =
      (readAll? rest).map (text.toList.map character ++ ·) := by
  rw [escapeLike, String.toList_ofList]
  induction text.toList with
  | nil => simp
  | cons c others inductionHypothesis =>
    rw [List.flatMap_cons, List.append_assoc]
    split
    · simp [readAll?, inductionHypothesis, Function.comp_def]
    · rename_i plain
      simp only [not_or] at plain
      simp [readAll?, plain, inductionHypothesis, Function.comp_def]

/-- Characters match themselves at the head of a text. -/
theorem matchAll_characters (expected : List Char) (symbols : List LikeSymbol) (text : List Char) :
    matchAll (expected.map character ++ symbols) text = true ↔
      ∃ rest, text = expected ++ rest ∧ matchAll symbols rest = true := by
  induction expected generalizing text with
  | nil => simp
  | cons c expected inductionHypothesis =>
    cases text with
    | nil => simp [matchAll]
    | cons d text =>
      rw [List.map_cons, List.cons_append, matchAll, Bool.and_eq_true, inductionHypothesis]
      constructor
      · rintro ⟨same, rest, rfl, matched⟩
        exact ⟨rest, by rw [eq_of_beq same, List.cons_append], matched⟩
      · rintro ⟨rest, isText, matched⟩
        obtain ⟨rfl, rfl⟩ := List.cons.inj isText
        exact ⟨beq_self_eq_true d, rest, rfl, matched⟩

/-- A sign for any text leaves an end of the text to what is behind it. -/
theorem matchAll_anyText (symbols : List LikeSymbol) (text : List Char) :
    matchAll (.anyText :: symbols) text = true ↔
      ∃ before after, text = before ++ after ∧ matchAll symbols after = true := by
  rw [matchAll, List.any_eq_true]
  constructor
  · rintro ⟨after, isTail, matched⟩
    obtain ⟨before, rfl⟩ := (List.mem_tails _ _).mp isTail
    exact ⟨before, after, rfl, matched⟩
  · rintro ⟨before, after, rfl, matched⟩
    exact ⟨after, (List.mem_tails _ _).mpr (List.suffix_append _ _), matched⟩

end LikeSymbol

/-- Whether a text is like a pattern. -/
def like? (pattern text : String) : Option Bool :=
  (LikeSymbol.readAll? pattern.toList).map fun symbols => LikeSymbol.matchAll symbols text.toList

open LikeSymbol

/-- An escaped text before a percent sign is the pattern of the texts that start with it. -/
theorem decides_like_start (stem text : String) :
    Decides (like? (escapeLike stem ++ "%") text) (∃ rest, text = stem ++ rest) := by
  have symbols : readAll? (escapeLike stem ++ "%").toList =
      some (stem.toList.map character ++ [.anyText]) := by
    rw [String.toList_append, readAll?_escapeLike]
    rfl
  rw [like?, symbols, Option.map_some, exists_append_iff]
  apply decides_some
  rw [matchAll_characters]
  constructor
  · rintro ⟨rest, isText, -⟩
    exact ⟨rest, isText⟩
  · rintro ⟨rest, isText⟩
    refine ⟨rest, isText, ?_⟩
    rw [matchAll_anyText]
    exact ⟨rest, [], (List.append_nil _).symm, rfl⟩

/-- An escaped text behind a percent sign is the pattern of the texts that end with it. -/
theorem decides_like_end (stem text : String) :
    Decides (like? ("%" ++ escapeLike stem) text) (∃ rest, text = rest ++ stem) := by
  have symbols : readAll? ("%" ++ escapeLike stem).toList =
      some (.anyText :: stem.toList.map character) := by
    have stemSymbols := readAll?_escapeLike stem []
    rw [List.append_nil] at stemSymbols
    rw [String.toList_append]
    simp [readAll?, stemSymbols]
  have whole (after : List Char) :
      matchAll (stem.toList.map character) after = true ↔ after = stem.toList := by
    have characters := matchAll_characters stem.toList [] after
    rw [List.append_nil] at characters
    simp [characters, matchAll]
  rw [like?, symbols, Option.map_some, exists_prepend_iff]
  apply decides_some
  rw [matchAll_anyText]
  constructor
  · rintro ⟨before, after, isText, matched⟩
    obtain rfl := (whole after).mp matched
    exact ⟨before, isText⟩
  · rintro ⟨rest, isText⟩
    exact ⟨rest, stem.toList, isText, (whole _).mpr rfl⟩

end FilterQuery.Sql
