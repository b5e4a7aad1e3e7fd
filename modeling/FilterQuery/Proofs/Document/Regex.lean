import FilterQuery.Document.Query
import FilterQuery.Proofs.Compile.Wildcards
import Mathlib.Data.List.Basic

/-!
# Regular expressions of searches

How a database runs the regular expression of a search, which has no options: it looks for a place
in the subject from which the expression matches. Expressions are read as far as searches go: as
characters, signs for the start and signs for the end, one behind the other. A backslash makes a
character that is no letter or digit stand for itself. An expression with a repetition, a choice, a
group or a class is not read.

The sign for the start matches at the start of the subject only. The sign for the end matches at the
end and also before a newline that ends the subject, so that a search for an end finds more than it
asks for.
-/

namespace FilterQuery.Document

/-- A symbol of a regular expression. -/
inductive RegexSymbol where
  | character (c : Char)
  | start
  | stop
deriving DecidableEq, Repr

namespace RegexSymbol

/-- The characters that make repetitions, choices, groups and classes. -/
def operators : List Char := ['.', '*', '+', '?', '(', ')', '|', '[', '{']

/-- The symbols of a regular expression. -/
def readAll? : List Char → Option (List RegexSymbol)
  | [] => some []
  | ['\\'] => none
  | '\\' :: c :: rest =>
    if c.isAlphanum then none else (readAll? rest).map (.character c :: ·)
  | '^' :: rest => (readAll? rest).map (.start :: ·)
  | '$' :: rest => (readAll? rest).map (.stop :: ·)
  | c :: rest => if c ∈ operators then none else (readAll? rest).map (.character c :: ·)

/-- Whether symbols match from a place between two parts of a subject. -/
def matchFrom : List RegexSymbol → (before after : List Char) → Bool
  | [], _, _ => true
  | .start :: rest, before, after => before.isEmpty && matchFrom rest before after
  | .stop :: rest, before, after =>
    (after == [] || after == ['\n']) && matchFrom rest before after
  | .character c :: rest, before, d :: after => c == d && matchFrom rest (before ++ [d]) after
  | .character _ :: _, _, [] => false

/-- Whether symbols match from some place in a subject. -/
def search (symbols : List RegexSymbol) (subject : List Char) : Bool :=
  (List.range (subject.length + 1)).any fun place =>
    matchFrom symbols (subject.take place) (subject.drop place)

theorem not_isAlphanum_of_isMeta {c : Char} (special : isMeta c = true) : c.isAlphanum = false := by
  have noneOfThem : ("\\.+*?()|[]\x7b\x7d^$".toList.all fun d => !d.isAlphanum) = true := rfl
  simpa using List.all_eq_true.mp noneOfThem c (by simpa [isMeta] using special)

/-- A character without a meaning of its own stands for itself. -/
theorem readAll?_plain {c : Char} (plain : isMeta c = false) (rest : List Char) :
    readAll? (c :: rest) = (readAll? rest).map (.character c :: ·) := by
  have allOfThem : ('\\' :: '^' :: '$' :: operators).all isMeta = true := rfl
  have ordinary : c ∉ '\\' :: '^' :: '$' :: operators := by
    intro isOperator
    rw [List.all_eq_true.mp allOfThem c isOperator] at plain
    cases plain
  simp only [List.mem_cons, not_or] at ordinary
  simp [readAll?, ordinary]

/-- An escaped text is read as its characters, whatever follows. -/
theorem readAll?_escapeRegex (text : String) (rest : List Char) :
    readAll? ((escapeRegex text).toList ++ rest) =
      (readAll? rest).map (text.toList.map character ++ ·) := by
  rw [escapeRegex, String.toList_ofList]
  induction text.toList with
  | nil => simp
  | cons c others inductionHypothesis =>
    rw [List.flatMap_cons, List.append_assoc]
    split
    · rename_i special
      have punctuation := not_isAlphanum_of_isMeta special
      simp [readAll?, punctuation, inductionHypothesis, Function.comp_def]
    · rename_i notSpecial
      have plain : isMeta c = false := by simpa using notSpecial
      simp [readAll?_plain plain, inductionHypothesis, Function.comp_def]

/-- Characters match themselves behind any place, and what follows them has to match after them. -/
theorem matchFrom_characters (expected : List Char) (symbols : List RegexSymbol)
    (before after : List Char) :
    matchFrom (expected.map character ++ symbols) before after = true ↔
      ∃ rest, after = expected ++ rest ∧ matchFrom symbols (before ++ expected) rest = true := by
  induction expected generalizing before after with
  | nil => simp
  | cons c expected inductionHypothesis =>
    cases after with
    | nil => simp [matchFrom]
    | cons d after =>
      rw [List.map_cons, List.cons_append, matchFrom, Bool.and_eq_true, inductionHypothesis,
        List.append_assoc]
      constructor
      · rintro ⟨same, rest, rfl, matched⟩
        obtain rfl := eq_of_beq same
        exact ⟨rest, rfl, matched⟩
      · rintro ⟨rest, isAfter, matched⟩
        obtain ⟨rfl, rfl⟩ := List.cons.inj isAfter
        exact ⟨beq_self_eq_true d, rest, rfl, matched⟩

/-- A search tries every place. -/
theorem search_eq_true_iff (symbols : List RegexSymbol) (subject : List Char) :
    search symbols subject = true ↔
      ∃ before after, subject = before ++ after ∧ matchFrom symbols before after = true := by
  rw [search, List.any_eq_true]
  constructor
  · rintro ⟨place, -, matched⟩
    exact ⟨_, _, (List.take_append_drop place subject).symm, matched⟩
  · rintro ⟨before, after, rfl, matched⟩
    refine ⟨before.length, ?_, ?_⟩
    · rw [List.mem_range, List.length_append]
      omega
    · rwa [List.take_left, List.drop_left]

/-- A text behind the sign for the start is found at the start only. -/
theorem search_start (expected subject : List Char) :
    search (.start :: expected.map character) subject = true ↔
      ∃ rest, subject = expected ++ rest := by
  have matches_iff (before after : List Char) :
      matchFrom (.start :: expected.map character) before after = true ↔
        before = [] ∧ ∃ rest, after = expected ++ rest := by
    have characters := matchFrom_characters expected [] before after
    rw [List.append_nil] at characters
    simp [matchFrom, characters]
  simp [search_eq_true_iff, matches_iff]

/-- A text before the sign for the end is found at the end, and before a newline at the end. -/
theorem search_stop (expected subject : List Char) :
    search (expected.map character ++ [.stop]) subject = true ↔
      (∃ rest, subject = rest ++ expected) ∨ ∃ rest, subject = rest ++ expected ++ ['\n'] := by
  have stop_iff (before after : List Char) :
      matchFrom [.stop] before after = true ↔ after = [] ∨ after = ['\n'] := by
    simp [matchFrom]
  simp only [search_eq_true_iff, matchFrom_characters, stop_iff]
  constructor
  · rintro ⟨before, _, rfl, rest, rfl, rfl | rfl⟩
    · exact .inl ⟨before, by rw [List.append_nil]⟩
    · exact .inr ⟨before, by rw [List.append_assoc]⟩
  · rintro (⟨before, rfl⟩ | ⟨before, rfl⟩)
    · exact ⟨before, expected, rfl, [], (List.append_nil _).symm, .inl rfl⟩
    · exact ⟨before, expected ++ ['\n'], List.append_assoc .., ['\n'], rfl, .inr rfl⟩

end RegexSymbol

/-- Whether a regular expression is found in a subject. -/
def search? (pattern subject : String) : Option Bool :=
  (RegexSymbol.readAll? pattern.toList).map fun symbols =>
    RegexSymbol.search symbols subject.toList

open RegexSymbol

/-- A search for a start finds exactly the start. Whatever the literal of the search is, its regular
expression is found in exactly the subjects that start with the literal without its wildcard. -/
theorem startsWith_finds_start (field literal : String) :
    ∃ pattern, startsWith field literal = single field (.regex pattern) ∧
      ∀ subject, Decides (search? pattern subject)
        (∃ rest, subject = prefixPattern literal ++ rest) := by
  refine ⟨_, rfl, fun subject => ?_⟩
  have symbols : readAll? ("^" ++ escapeRegex (prefixPattern literal)).toList =
      some (.start :: (prefixPattern literal).toList.map character) := by
    have characters := readAll?_escapeRegex (prefixPattern literal) []
    rw [List.append_nil] at characters
    rw [String.toList_append]
    simp [readAll?, characters]
  rw [search?, symbols, Option.map_some, exists_append_iff]
  apply decides_some
  exact search_start _ _

/-- A search for an end finds the end, and one newline more. Whatever the literal of the search is,
its regular expression is found in exactly the subjects that end with the literal without its
wildcard, and in those that do so but for a newline at their end. -/
theorem endsWith_finds_end_or_newline (field literal : String) :
    ∃ pattern, endsWith field literal = single field (.regex pattern) ∧
      ∀ subject, Decides (search? pattern subject)
        ((∃ rest, subject = rest ++ suffixPattern literal) ∨
          ∃ rest, subject = rest ++ (suffixPattern literal ++ "\n")) := by
  refine ⟨_, rfl, fun subject => ?_⟩
  have symbols : readAll? (escapeRegex (suffixPattern literal) ++ "$").toList =
      some ((suffixPattern literal).toList.map character ++ [.stop]) := by
    rw [String.toList_append, readAll?_escapeRegex]
    rfl
  rw [search?, symbols, Option.map_some, exists_prepend_iff, exists_prepend_iff]
  apply decides_some
  rw [search_stop]
  simp

/-- A subject that ends with a newline is found by a search for the end before it. -/
theorem endsWith_finds_newline :
    endsWith "name" "*abc" = single "name" (.regex "abc$") ∧
      search? "abc$" "abc\n" = some true ∧
      ¬ ∃ rest, "abc\n" = rest ++ suffixPattern "*abc" := by
  refine ⟨rfl, rfl, ?_⟩
  rw [exists_prepend_iff]
  rintro ⟨rest, isSubject⟩
  have last := congrArg List.getLast? isSubject
  simp [suffixPattern] at last

end FilterQuery.Document
