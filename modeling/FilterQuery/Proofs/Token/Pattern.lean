import FilterQuery.Token.Pattern

/-!
# Heads of longer texts

What a pattern takes from a text is a head of that text, and it is the same head when more text
follows, provided that the pattern could not have gone on. A pattern cannot go on at a character
that it mentions nowhere.
-/

namespace FilterQuery.Pattern

attribute [local simp] split?

section Repetition

variable {piece? : List Char → Option (List Char × List Char)} {text : List Char}

theorem splitRepeated_of_piece {c : Char} {head rest : List Char}
    (found : piece? text = some (c :: head, rest)) (limit : Nat) :
    splitRepeated piece? (limit + 1) text =
      (c :: head ++ (splitRepeated piece? limit rest).1, (splitRepeated piece? limit rest).2) := by
  rw [splitRepeated, found]

theorem splitRepeated_of_no_piece
    (missing : ∀ c head rest, piece? text ≠ some (c :: head, rest)) (limit : Nat) :
    splitRepeated piece? limit text = ([], text) := by
  cases limit with
  | zero => rfl
  | succ limit =>
    rw [splitRepeated]
    split
    · next found => exact absurd found (missing _ _ _)
    · rfl

/-- A text has a piece at its head that is not empty, or it has none. -/
theorem piece_or_no_piece (piece? : List Char → Option (List Char × List Char))
    (text : List Char) :
    (∃ c head rest, piece? text = some (c :: head, rest)) ∨
      ∀ c head rest, piece? text ≠ some (c :: head, rest) := by
  by_cases found : ∃ c head rest, piece? text = some (c :: head, rest)
  · exact .inl found
  · exact .inr fun c head rest piece => found ⟨c, head, rest, piece⟩

variable (exact : ∀ {text head rest}, piece? text = some (head, rest) → head ++ rest = text)

include exact

/-- The pieces that were split off and the rest make up the text. -/
theorem splitRepeated_append (limit : Nat) (text : List Char) :
    (splitRepeated piece? limit text).1 ++ (splitRepeated piece? limit text).2 = text := by
  induction limit generalizing text with
  | zero => rfl
  | succ limit inductionHypothesis =>
    obtain ⟨c, head, rest, found⟩ | missing := piece_or_no_piece piece? text
    · rw [splitRepeated_of_piece found, List.append_assoc, inductionHypothesis]
      exact exact found
    · rw [splitRepeated_of_no_piece missing]
      rfl

/-- One more piece is of no use once the limit is the length of the text. -/
theorem splitRepeated_succ {limit : Nat} (enough : text.length ≤ limit) :
    splitRepeated piece? (limit + 1) text = splitRepeated piece? limit text := by
  induction limit generalizing text with
  | zero =>
    have missing : ∀ c head rest, piece? text ≠ some (c :: head, rest) := by
      intro c head rest found
      have nonempty : text ≠ [] := by simp [← exact found]
      exact nonempty (List.length_eq_zero_iff.mp (by omega))
    rw [splitRepeated_of_no_piece missing, splitRepeated_of_no_piece missing]
  | succ limit inductionHypothesis =>
    obtain ⟨c, head, rest, found⟩ | missing := piece_or_no_piece piece? text
    · have shorter : rest.length ≤ limit := by
        have lengths := congrArg List.length (exact found)
        simp only [List.length_append, List.length_cons] at lengths
        omega
      rw [splitRepeated_of_piece found, splitRepeated_of_piece found, inductionHypothesis shorter]
    · rw [splitRepeated_of_no_piece missing, splitRepeated_of_no_piece missing]

/-- A limit that is at least the length of the text does not bind. -/
theorem splitRepeated_of_length_le {limit : Nat} (enough : text.length ≤ limit) :
    splitRepeated piece? limit text = splitRepeated piece? text.length text := by
  induction enough with
  | refl => rfl
  | step enough inductionHypothesis =>
    rw [splitRepeated_succ exact enough, inductionHypothesis]

end Repetition

/-- The head that a pattern takes and the rest make up the text. -/
theorem split?_append {pattern : Pattern} {text head rest : List Char}
    (found : pattern.split? text = some (head, rest)) : head ++ rest = text := by
  induction pattern generalizing text head rest with
  | empty =>
    obtain ⟨rfl, rfl⟩ : [] = head ∧ text = rest := by simpa using found
    rfl
  | char allowed =>
    cases text with
    | nil => simp at found
    | cons c tail =>
      obtain ⟨-, rfl, rfl⟩ : allowed c = true ∧ [c] = head ∧ tail = rest := by
        simpa using found
      rfl
  | seq first second firstExact secondExact =>
    rw [split?] at found
    split at found
    · cases found
    · next left middle leftFound =>
      split at found
      · cases found
      · next right last rightFound =>
        obtain ⟨rfl, rfl⟩ : left ++ right = head ∧ last = rest := by simpa using found
        rw [List.append_assoc, secondExact rightFound]
        exact firstExact leftFound
  | choice first second firstExact secondExact =>
    rw [split?] at found
    split at found
    · next earlier =>
      rw [found] at earlier
      exact firstExact earlier
    · exact secondExact found
  | many inner innerExact =>
    have whole := splitRepeated_append innerExact text.length text
    rw [split?, Option.some.injEq] at found
    rwa [found] at whole

/-- The head that a choice takes is taken by one of its patterns. -/
theorem split?_choice {first second : Pattern} {text : List Char} {found : List Char × List Char}
    (split : (choice first second).split? text = some found) :
    first.split? text = some found ∨ second.split? text = some found := by
  rw [split?] at split
  split at split
  · next earlier => exact .inl (earlier.trans split)
  · exact .inr split

/-- The head that a word takes is the word. -/
theorem split?_word {wanted : String} {text head rest : List Char}
    (found : (word wanted).split? text = some (head, rest)) : head = wanted.toList := by
  unfold word at found
  generalize wanted.toList = characters at found ⊢
  induction characters generalizing text head rest with
  | nil =>
    obtain ⟨rfl, -⟩ : [] = head ∧ text = rest := by simpa using found
    rfl
  | cons c characters inductionHypothesis =>
    cases text with
    | nil => simp [is] at found
    | cons first tail =>
      simp only [List.foldr_cons, split?, is, beq_iff_eq] at found
      by_cases same : first = c
      · simp only [if_pos same] at found
        split at found
        · cases found
        · next right last rightFound =>
          obtain ⟨rfl, -⟩ : first :: right = head ∧ last = rest := by simpa using found
          rw [inductionHypothesis rightFound, same]
      · simp only [if_neg same] at found
        cases found

/-- The same head, with more text behind the rest. -/
def extendRest (more : List Char) (found : List Char × List Char) : List Char × List Char :=
  (found.1, found.2 ++ more)

/-- Pieces that are found alike before more text are split off alike. -/
theorem splitRepeated_extend {piece? : List Char → Option (List Char × List Char)}
    {more : List Char}
    (stable : ∀ text, piece? (text ++ more) = (piece? text).map (extendRest more))
    (limit : Nat) (text : List Char) :
    splitRepeated piece? limit (text ++ more) =
      extendRest more (splitRepeated piece? limit text) := by
  induction limit generalizing text with
  | zero => rfl
  | succ limit inductionHypothesis =>
    rw [splitRepeated, splitRepeated, stable]
    rcases piece? text with _ | ⟨_ | ⟨c, head⟩, rest⟩
    · rfl
    · rfl
    · simp only [Option.map_some, extendRest]
      rw [inductionHypothesis]
      rfl

/-- Whether no character class of a pattern has the character `c`. -/
def rejects (c : Char) : Pattern → Bool
  | .empty => true
  | .char allowed => !allowed c
  | .seq first second | .choice first second => first.rejects c && second.rejects c
  | .many inner => inner.rejects c

/-- A pattern takes the same head when a character that it rejects follows the text. -/
theorem split?_extend {pattern : Pattern} {c : Char} (rejected : pattern.rejects c = true)
    (more text : List Char) :
    pattern.split? (text ++ c :: more) =
      (pattern.split? text).map (extendRest (c :: more)) := by
  induction pattern generalizing text with
  | empty => rfl
  | char allowed =>
    cases text with
    | nil =>
      have refused : allowed c = false := by simpa [rejects] using rejected
      simp [refused]
    | cons first rest =>
      simp only [List.cons_append, split?]
      by_cases permitted : allowed first = true
      · simp [permitted, extendRest]
      · simp [permitted]
  | seq first second firstStable secondStable =>
    obtain ⟨firstRejected, secondRejected⟩ : first.rejects c = true ∧ second.rejects c = true := by
      simpa [rejects] using rejected
    simp only [split?, firstStable firstRejected]
    rcases first.split? text with _ | ⟨left, middle⟩
    · rfl
    · simp only [Option.map_some, extendRest, secondStable secondRejected]
      rcases second.split? middle with _ | ⟨right, rest⟩ <;> rfl
  | choice first second firstStable secondStable =>
    obtain ⟨firstRejected, secondRejected⟩ : first.rejects c = true ∧ second.rejects c = true := by
      simpa [rejects] using rejected
    simp only [split?, firstStable firstRejected, secondStable secondRejected]
    cases first.split? text with
    | none => rfl
    | some found => rfl
  | many inner innerStable =>
    have innerExact : ∀ {text head rest}, inner.split? text = some (head, rest) →
        head ++ rest = text := split?_append
    -- The two limits differ, but neither binds.
    have enough : text.length ≤ (text ++ c :: more).length := by simp
    rw [split?, split?, splitRepeated_extend (innerStable rejected),
      splitRepeated_of_length_le innerExact enough, Option.map_some]

end FilterQuery.Pattern
