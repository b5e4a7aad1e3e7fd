import FilterQuery.Proofs.Token.Pattern

/-!
# Patterns at the end of a text

What a pattern takes from the head of a text may depend on what stands behind. A pattern is stable
before some text if it takes the same with and without that text. A pattern shrinks if, conversely,
whatever it took with more text behind, it takes without that text.

Whether a pattern shrinks can be read off its shape. The only danger is a choice whose first pattern
is refused by the longer text and not by the shorter one.
-/

namespace FilterQuery.Pattern

section Repetition

theorem splitRepeated_char (allowed : Char → Bool) {limit : Nat} {text : List Char}
    (enough : text.length ≤ limit) :
    splitRepeated (char allowed).split? limit text =
      (text.takeWhile allowed, text.dropWhile allowed) := by
  induction text generalizing limit with
  | nil => exact splitRepeated_of_no_piece (by simp [split?]) limit
  | cons c rest inductionHypothesis =>
    obtain ⟨limit, rfl⟩ : ∃ smaller, limit = smaller + 1 := ⟨limit - 1, by simp at enough; omega⟩
    have shorter : rest.length ≤ limit := by simpa using enough
    by_cases permitted : allowed c = true
    · have piece : (char allowed).split? (c :: rest) = some ([c], rest) := by
        simp [split?, permitted]
      rw [splitRepeated_of_piece piece, inductionHypothesis shorter]
      simp [permitted]
    · rw [splitRepeated_of_no_piece (by simp [split?, permitted])]
      simp [permitted]

/-- A repeated character class takes characters as long as it can. -/
theorem split?_many_char (allowed : Char → Bool) (text : List Char) :
    (many (char allowed)).split? text =
      some (text.takeWhile allowed, text.dropWhile allowed) := by
  rw [split?, splitRepeated_char allowed (Nat.le_refl _)]

end Repetition

/-- One pattern after another takes what the two take in turn. -/
theorem split?_seq_eq_some_iff {first second : Pattern} {text head rest : List Char} :
    (seq first second).split? text = some (head, rest) ↔
      ∃ left middle right, first.split? text = some (left, middle) ∧
        second.split? middle = some (right, rest) ∧ left ++ right = head := by
  constructor
  · intro found
    rw [split?] at found
    split at found
    · cases found
    · next left middle leftFound =>
      split at found
      · cases found
      · next right last rightFound =>
        obtain ⟨same, rfl⟩ : left ++ right = head ∧ last = rest := by simpa using found
        exact ⟨left, middle, right, leftFound, rightFound, same⟩
  · rintro ⟨left, middle, right, leftFound, rightFound, rfl⟩
    simp [split?, leftFound, rightFound]

theorem split?_seq_eq_none_iff {first second : Pattern} {text : List Char} :
    (seq first second).split? text = none ↔
      ∀ left middle, first.split? text = some (left, middle) → second.split? middle = none := by
  rw [split?]
  rcases first.split? text with _ | ⟨left, middle⟩
  · simp
  · rcases taken : second.split? middle with _ | ⟨right, last⟩
    · simp [taken]
    · simp [taken]

theorem split?_optionally_of_some {pattern : Pattern} {text : List Char}
    {found : List Char × List Char} (taken : pattern.split? text = some found) :
    (optionally pattern).split? text = some found := by
  simp [optionally, split?, taken]

/-- A row of one pattern takes what the pattern takes. -/
theorem split?_all_singleton (pattern : Pattern) (text : List Char) :
    (all [pattern]).split? text = pattern.split? text := by
  have shape : all [pattern] = seq pattern .empty := rfl
  rw [shape]
  simp only [split?]
  rcases pattern.split? text with _ | ⟨head, rest⟩
  · rfl
  · simp

/-- Patterns in a row are taken in two parts, wherever the row is parted. -/
theorem split?_all_append (first second : List Pattern) (text : List Char) :
    (all (first ++ second)).split? text = (seq (all first) (all second)).split? text := by
  induction first generalizing text with
  | nil =>
    have whole : (all ([] ++ second)).split? text = (all second).split? text := rfl
    have nothing : (all []).split? text = some ([], text) := rfl
    simp only [whole, split?, nothing]
    rcases (all second).split? text with _ | ⟨head, rest⟩ <;> rfl
  | cons pattern first inductionHypothesis =>
    have outer : all (pattern :: first ++ second) = seq pattern (all (first ++ second)) := rfl
    have inner : all (pattern :: first) = seq pattern (all first) := rfl
    rw [outer, inner]
    simp only [split?]
    rcases pattern.split? text with _ | ⟨head, middle⟩
    · rfl
    · simp only [inductionHypothesis, split?]
      rcases (all first).split? middle with _ | ⟨left, behind⟩
      · rfl
      · simp only
        rcases (all second).split? behind with _ | ⟨right, rest⟩
        · rfl
        · simp

/-- A pattern takes the same from a text and from the text with more behind it. -/
def StableBefore (pattern : Pattern) (more text : List Char) : Prop :=
  pattern.split? (text ++ more) = (pattern.split? text).map (extendRest more)

namespace StableBefore

variable {more text : List Char}

theorem of_rejects {pattern : Pattern} {c : Char} (rejected : pattern.rejects c = true)
    (more text : List Char) : pattern.StableBefore (c :: more) text :=
  split?_extend rejected more text

theorem char {allowed : Char → Bool} (nonempty : text ≠ []) :
    (Pattern.char allowed).StableBefore more text := by
  cases text with
  | nil => exact absurd rfl nonempty
  | cons first rest =>
    unfold StableBefore
    by_cases permitted : allowed first = true
    · simp [split?, permitted, extendRest]
    · simp [split?, permitted]

theorem seq {first second : Pattern} (firstStable : first.StableBefore more text)
    (secondStable : ∀ left middle, first.split? text = some (left, middle) →
      second.StableBefore more middle) :
    (Pattern.seq first second).StableBefore more text := by
  unfold StableBefore at firstStable ⊢
  simp only [split?, firstStable]
  cases found : first.split? text with
  | none => rfl
  | some taken =>
    obtain ⟨left, middle⟩ := taken
    simp only [Option.map_some, extendRest]
    rw [secondStable left middle found]
    rcases second.split? middle with _ | ⟨right, rest⟩ <;> rfl

theorem choice {first second : Pattern} (firstStable : first.StableBefore more text)
    (secondStable : second.StableBefore more text) :
    (Pattern.choice first second).StableBefore more text := by
  unfold StableBefore at firstStable secondStable ⊢
  simp only [split?, firstStable, secondStable]
  cases first.split? text with
  | none => rfl
  | some found => rfl

theorem empty : Pattern.empty.StableBefore more text := rfl

theorem all_append {first second : List Pattern}
    (stable : (Pattern.seq (all first) (all second)).StableBefore more text) :
    (all (first ++ second)).StableBefore more text := by
  unfold StableBefore at stable ⊢
  rw [split?_all_append, split?_all_append, stable]

/-- An optional pattern is stable where the pattern is. -/
theorem optionally {pattern : Pattern} (stable : pattern.StableBefore more text) :
    (Pattern.optionally pattern).StableBefore more text :=
  choice stable empty

end StableBefore

section Shrinking

/-- Whether a pattern takes something, be it nothing, from every text. -/
def isTotal : Pattern → Bool
  | .empty | .many _ => true
  | .char _ => false
  | .seq first second => first.isTotal && second.isTotal
  | .choice first second => first.isTotal || second.isTotal

/-- Whether a pattern takes a fixed number of characters. -/
def isRigid : Pattern → Bool
  | .empty | .char _ => true
  | .seq first second => first.isRigid && second.isRigid
  | .choice _ _ | .many _ => false

/-- Whether a pattern that stops before the end of a text stops there whatever follows. -/
def isSettled : Pattern → Bool
  | .empty | .char _ => true
  | .seq first second => first.isSettled && second.isSettled
  | .choice (.char _) second => second.isSettled
  | .many (.char _) => true
  | .choice _ _ | .many _ => false

/-- Whether a pattern that a longer text refuses is refused by a shorter one. -/
def isSteady : Pattern → Bool
  | .empty | .char _ | .many _ => true
  | .choice first second => first.isSteady && second.isSteady
  | .seq first second =>
    first.isSteady &&
      (second.isTotal ||
        second.isSteady && (first.isRigid || first.isSettled && (second.split? []).isNone))

/-- Whether a pattern takes from a text whatever it takes of it when more text follows. -/
def shrinks : Pattern → Bool
  | .empty | .char _ => true
  | .seq first second => first.shrinks && second.shrinks
  | .choice first second => first.isSteady && first.shrinks && second.shrinks
  | .many inner => inner.isSteady && inner.shrinks

theorem exists_split?_of_isTotal {pattern : Pattern} (total : pattern.isTotal = true)
    (text : List Char) : ∃ found, pattern.split? text = some found := by
  induction pattern generalizing text with
  | empty => exact ⟨_, rfl⟩
  | char allowed => cases total
  | seq first second firstTotal secondTotal =>
    obtain ⟨totalFirst, totalSecond⟩ : first.isTotal = true ∧ second.isTotal = true := by
      simpa [isTotal] using total
    obtain ⟨⟨left, middle⟩, leftFound⟩ := firstTotal totalFirst text
    obtain ⟨⟨right, rest⟩, rightFound⟩ := secondTotal totalSecond middle
    exact ⟨(left ++ right, rest), by simp [split?, leftFound, rightFound]⟩
  | choice first second firstTotal secondTotal =>
    cases found : first.split? text with
    | some taken => exact ⟨taken, by simp [split?, found]⟩
    | none =>
      rcases Bool.or_eq_true_iff.mp total with totalFirst | totalSecond
      · obtain ⟨taken, foundFirst⟩ := firstTotal totalFirst text
        cases found.symm.trans foundFirst
      · obtain ⟨taken, foundSecond⟩ := secondTotal totalSecond text
        exact ⟨taken, by simp [split?, found, foundSecond]⟩
  | many inner _ => exact ⟨_, rfl⟩

theorem split?_extend_of_isRigid {pattern : Pattern} (rigid : pattern.isRigid = true)
    {text head rest : List Char} (found : pattern.split? text = some (head, rest))
    (more : List Char) : pattern.split? (text ++ more) = some (head, rest ++ more) := by
  induction pattern generalizing text head rest with
  | empty =>
    obtain ⟨rfl, rfl⟩ : [] = head ∧ text = rest := by simpa [split?] using found
    rfl
  | char allowed =>
    cases text with
    | nil => cases found
    | cons first tail =>
      obtain ⟨permitted, rfl, rfl⟩ : allowed first = true ∧ [first] = head ∧ tail = rest := by
        simpa [split?] using found
      simp [split?, permitted]
  | seq first second firstRigid secondRigid =>
    obtain ⟨rigidFirst, rigidSecond⟩ : first.isRigid = true ∧ second.isRigid = true := by
      simpa [isRigid] using rigid
    obtain ⟨left, middle, right, leftFound, rightFound, rfl⟩ := split?_seq_eq_some_iff.mp found
    exact split?_seq_eq_some_iff.mpr ⟨left, _, right, firstRigid rigidFirst leftFound,
      secondRigid rigidSecond rightFound, rfl⟩
  | choice first second _ _ => cases rigid
  | many inner _ => cases rigid

theorem split?_extend_of_isSettled {pattern : Pattern} (settled : pattern.isSettled = true)
    {text head rest : List Char} (found : pattern.split? text = some (head, rest))
    (stopped : rest ≠ []) (more : List Char) :
    pattern.split? (text ++ more) = some (head, rest ++ more) := by
  induction pattern generalizing text head rest with
  | empty | char _ => exact split?_extend_of_isRigid rfl found more
  | seq first second firstSettled secondSettled =>
    obtain ⟨settledFirst, settledSecond⟩ : first.isSettled = true ∧ second.isSettled = true := by
      simpa [isSettled] using settled
    obtain ⟨left, middle, right, leftFound, rightFound, rfl⟩ := split?_seq_eq_some_iff.mp found
    have middleStopped : middle ≠ [] := by
      rw [← split?_append rightFound]
      simp [stopped]
    exact split?_seq_eq_some_iff.mpr ⟨left, _, right,
      firstSettled settledFirst leftFound middleStopped,
      secondSettled settledSecond rightFound stopped, rfl⟩
  | choice first second firstSettled secondSettled =>
    match first with
    | .char allowed =>
      cases text with
      | nil =>
        have nothing := split?_append found
        exact absurd (List.append_eq_nil_iff.mp nothing).2 stopped
      | cons c tail =>
        by_cases permitted : allowed c = true
        · obtain ⟨rfl, rfl⟩ : [c] = head ∧ tail = rest := by simpa [split?, permitted] using found
          simp [split?, permitted]
        · have taken : second.split? (c :: tail) = some (head, rest) := by
            simpa [split?, permitted] using found
          simpa [split?, permitted] using secondSettled settled taken stopped
    | .empty | .seq _ _ | .choice _ _ | .many _ => cases settled
  | many inner _ =>
    match inner with
    | .char allowed =>
      rw [split?_many_char, Option.some.injEq, Prod.mk.injEq] at found
      obtain ⟨rfl, rfl⟩ := found
      have short : (text.takeWhile allowed).length ≠ text.length := by
        have whole := List.takeWhile_append_dropWhile (p := allowed) (l := text)
        have lengths := congrArg List.length whole
        have some := List.length_pos_iff.mpr stopped
        rw [List.length_append] at lengths
        omega
      rw [split?_many_char, List.takeWhile_append, if_neg short, List.dropWhile_append,
        if_neg (by simpa using stopped)]
    | .empty | .seq _ _ | .choice _ _ | .many _ => cases settled

theorem split?_eq_none_of_append {pattern : Pattern} (steady : pattern.isSteady = true)
    {text more : List Char} (refused : pattern.split? (text ++ more) = none) :
    pattern.split? text = none := by
  induction pattern generalizing text with
  | empty => cases refused
  | char allowed =>
    cases text with
    | nil => rfl
    | cons first rest => simpa [split?] using refused
  | seq first second firstSteady secondSteady =>
    rw [split?_seq_eq_none_iff] at refused ⊢
    intro left middle leftFound
    rw [isSteady, Bool.and_eq_true, Bool.or_eq_true] at steady
    obtain ⟨steadyFirst, total | further⟩ := steady
    · -- The second pattern always takes something, so the first one is refused.
      have refusedFirst : first.split? (text ++ more) = none := by
        cases longer : first.split? (text ++ more) with
        | none => rfl
        | some taken =>
          obtain ⟨found, foundSecond⟩ := exists_split?_of_isTotal total taken.2
          cases (refused taken.1 taken.2 longer).symm.trans foundSecond
      cases (firstSteady steadyFirst refusedFirst).symm.trans leftFound
    · rw [Bool.and_eq_true, Bool.or_eq_true, Bool.and_eq_true, Option.isNone_iff_eq_none] at further
      obtain ⟨steadySecond, rigid | ⟨settled, refusesNothing⟩⟩ := further
      · have longer := split?_extend_of_isRigid rigid leftFound more
        exact secondSteady steadySecond (refused _ _ longer)
      · by_cases atEnd : middle = []
        · rw [atEnd, refusesNothing]
        · exact secondSteady steadySecond
            (refused _ _ (split?_extend_of_isSettled settled leftFound atEnd more))
  | choice first second firstSteady secondSteady =>
    rw [isSteady, Bool.and_eq_true] at steady
    have both : first.split? (text ++ more) = none ∧ second.split? (text ++ more) = none := by
      rw [split?] at refused
      split at refused
      · cases refused
      · next missing => exact ⟨missing, refused⟩
    rw [split?, firstSteady steady.1 both.1, secondSteady steady.2 both.2]
  | many inner _ => cases refused

/-- Pieces that are found alike without more text are split off alike. -/
theorem splitRepeated_of_append {piece? : List Char → Option (List Char × List Char)}
    {more : List Char}
    (exact : ∀ {text head rest}, piece? text = some (head, rest) → head ++ rest = text)
    (shrinking : ∀ {head rest}, piece? (head ++ rest ++ more) = some (head, rest ++ more) →
      piece? (head ++ rest) = some (head, rest))
    (steady : ∀ {text}, piece? (text ++ more) = none → piece? text = none) {limit : Nat}
    {head rest : List Char}
    (found : splitRepeated piece? limit (head ++ rest ++ more) = (head, rest ++ more)) :
    splitRepeated piece? limit (head ++ rest) = (head, rest) := by
  induction limit generalizing head with
  | zero =>
    obtain rfl : [] = head := (Prod.mk.inj found).1
    rfl
  | succ limit inductionHypothesis =>
    obtain ⟨c, piece, behind, taken⟩ | missing := piece_or_no_piece piece? (head ++ rest ++ more)
    · rw [splitRepeated_of_piece taken] at found
      obtain ⟨split, last⟩ := Prod.mk.inj found
      have whole := splitRepeated_append exact limit behind
      generalize pieces : splitRepeated piece? limit behind = pair at split last whole
      obtain ⟨tail, rest'⟩ := pair
      obtain rfl : rest' = rest ++ more := last
      obtain rfl : c :: piece ++ tail = head := split
      obtain rfl : tail ++ (rest ++ more) = behind := whole
      rw [← List.append_assoc] at pieces
      have shorter : piece? (c :: piece ++ (tail ++ rest)) = some (c :: piece, tail ++ rest) :=
        shrinking (by simpa using taken)
      rw [List.append_assoc, splitRepeated_of_piece shorter, inductionHypothesis pieces]
    · rw [splitRepeated_of_no_piece missing] at found
      obtain rfl : [] = head := (Prod.mk.inj found).1
      refine splitRepeated_of_no_piece ?_ _
      intro c piece behind taken
      cases longer : piece? ([] ++ rest ++ more) with
      | none => cases (steady longer).symm.trans taken
      | some pair =>
        obtain ⟨_ | ⟨d, other⟩, remaining⟩ := pair
        · obtain rfl : remaining = rest ++ more := exact longer
          cases (shrinking longer).symm.trans taken
        · exact missing d other remaining longer

/-- A pattern that shrinks takes from a text what it takes of it when more text follows. -/
theorem split?_of_append {pattern : Pattern} (shrinking : pattern.shrinks = true)
    {head rest more : List Char}
    (found : pattern.split? (head ++ rest ++ more) = some (head, rest ++ more)) :
    pattern.split? (head ++ rest) = some (head, rest) := by
  induction pattern generalizing head rest with
  | empty =>
    obtain ⟨rfl, -⟩ : [] = head ∧ head ++ rest ++ more = rest ++ more := by
      simpa [split?] using found
    rfl
  | char allowed =>
    match head with
    | [] =>
      generalize text : [] ++ rest ++ more = characters at found
      cases characters with
      | nil => cases found
      | cons c tail => simp [split?] at found
    | c :: tail =>
      obtain ⟨permitted, rfl⟩ : allowed c = true ∧ tail = [] := by simpa [split?] using found
      simp [split?, permitted]
  | seq first second firstShrinks secondShrinks =>
    rw [shrinks, Bool.and_eq_true] at shrinking
    obtain ⟨left, middle, right, leftFound, rightFound, rfl⟩ := split?_seq_eq_some_iff.mp found
    obtain rfl : right ++ (rest ++ more) = middle := split?_append rightFound
    rw [← List.append_assoc] at rightFound
    refine split?_seq_eq_some_iff.mpr ⟨left, right ++ rest, right, ?_,
      secondShrinks shrinking.2 rightFound, rfl⟩
    rw [List.append_assoc]
    exact firstShrinks shrinking.1 (by simpa using leftFound)
  | choice first second firstShrinks secondShrinks =>
    rw [shrinks, Bool.and_eq_true, Bool.and_eq_true] at shrinking
    obtain ⟨⟨steady, shrinkingFirst⟩, shrinkingSecond⟩ := shrinking
    rw [split?] at found ⊢
    split at found
    · next taken leftFound =>
      rw [firstShrinks shrinkingFirst (leftFound.trans found)]
    · next missing =>
      rw [split?_eq_none_of_append steady missing]
      exact secondShrinks shrinkingSecond found
  | many inner innerShrinks =>
    rw [shrinks, Bool.and_eq_true] at shrinking
    have exact : ∀ {text head rest}, inner.split? text = some (head, rest) →
        head ++ rest = text := split?_append
    have enough : (head ++ rest).length ≤ (head ++ rest ++ more).length := by simp
    rw [split?, Option.some.injEq] at found ⊢
    rw [← splitRepeated_of_length_le exact enough]
    exact splitRepeated_of_append exact (innerShrinks shrinking.2)
      (split?_eq_none_of_append shrinking.1) found

end Shrinking

end FilterQuery.Pattern
