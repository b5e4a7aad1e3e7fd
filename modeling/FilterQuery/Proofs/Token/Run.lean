import FilterQuery.Proofs.Token.Layout
import FilterQuery.Proofs.Tree.ValidPrefix

/-!
# Reading step by step

A text is read in steps. Each step passes over a separator, reads a token, or reports a stray
character, and each of these starts where the step before it ended. `Place.Step` says what one step
may do; `Place.Steps` puts steps together, and what they read is what `scan` reads.

What holds of every run is shown for one step first: the characters that a step passes over stand at
the head of what was left of the text, and what it reads lies between the places where it starts and
ends.
-/

namespace FilterQuery

/-- The position behind a token. -/
def Token.stop (token : Token) : Nat := token.position + Text.utf8Length token.text.toList

theorem Token.stop_ofList (kind : TokenKind) (lexeme : List Char) (position : Nat) :
    Token.stop ⟨kind, String.ofList lexeme, position⟩ = position + Text.utf8Length lexeme := by
  rw [Token.stop, String.toList_ofList]

theorem Text.utf8Length_append (first second : List Char) :
    utf8Length (first ++ second) = utf8Length first + utf8Length second := by
  simp only [Text.utf8Length_ofList, String.ofList_append, String.utf8ByteSize_append]

/-- Whether the last token is a comparator. -/
def afterComparator (last : Option TokenKind) : Bool := last.any (· == .comparator)

theorem afterComparator_eq_true_iff {last : Option TokenKind} :
    afterComparator last = true ↔ last = some .comparator := by
  cases last <;> simp [afterComparator]

/-- How far a text has been read: the position, the kind of the last token, and what is left of the
text. -/
structure Place where
  position : Nat
  last : Option TokenKind
  rest : List Char

namespace Place

/-- The place at which reading starts. -/
def start (text : String) : Place := ⟨0, none, text.toList⟩

/-- One step from a place to the next, with what is read in it. -/
inductive Step : Place → Scan → Place → Prop where
  | separator {position : Nat} {last : Option TokenKind} {c : Char} {rest : List Char}
      (separates : isSeparator c = true) :
      Step ⟨position, last, c :: rest⟩ ⟨[], []⟩ ⟨position + c.utf8Size, last, rest⟩
  | token {position : Nat} {last : Option TokenKind} {kind : TokenKind} {lexeme rest : List Char}
      (found : nextToken? (afterComparator last) (lexeme ++ rest) = some (kind, lexeme)) :
      Step ⟨position, last, lexeme ++ rest⟩ ⟨[⟨kind, String.ofList lexeme, position⟩], []⟩
        ⟨position + Text.utf8Length lexeme, some kind, rest⟩
  | stray {position : Nat} {last : Option TokenKind} {c : Char} {rest : List Char}
      (word : isSeparator c = false)
      (missing : nextToken? (afterComparator last) (c :: rest) = none) :
      Step ⟨position, last, c :: rest⟩ ⟨[], [⟨c, position⟩]⟩ ⟨position + c.utf8Size, last, rest⟩

/-- Steps one after the other, with all that is read in them. -/
inductive Steps : Place → Scan → Place → Prop where
  | refl {place : Place} : Steps place ⟨[], []⟩ place
  | cons {place next finish : Place} {first others : Scan} (step : Step place first next)
      (steps : Steps next others finish) : Steps place (first.append others) finish

theorem Steps.trans {place middle finish : Place} {first second : Scan}
    (before : place.Steps first middle) (behind : middle.Steps second finish) :
    place.Steps (first.append second) finish := by
  induction before with
  | refl => exact behind
  | cons step _ inductionHypothesis =>
    rw [Scan.append_assoc]
    exact .cons step (inductionHypothesis behind)

theorem Steps.snoc {place middle finish : Place} {first second : Scan}
    (before : place.Steps first middle) (step : middle.Step second finish) :
    place.Steps (first.append second) finish := by
  have last := Steps.cons step .refl
  have same : second.append ⟨[], []⟩ = second := by simp [Scan.append]
  rw [same] at last
  exact before.trans last

section Scanning

/-- What is read from a place on. -/
def scan (place : Place) : Scan := scanFrom place.position (afterComparator place.last) 0 place.rest

theorem scan_start (text : String) : (start text).scan = FilterQuery.scan text := rfl

/-- A step reads the first of what is read from its place on. -/
theorem Step.scan_eq {place next : Place} {read : Scan} (step : place.Step read next) :
    place.scan = read.append next.scan := by
  cases step with
  | separator separates => exact scanFrom_separator separates
  | token found => exact scanFrom_word (nextToken?_ne_nil found) found
  | stray word missing => exact scanFrom_stray word missing

/-- Steps read the first of what is read from their place on. -/
theorem Steps.scan_eq {place finish : Place} {read : Scan} (steps : place.Steps read finish) :
    place.scan = read.append finish.scan := by
  induction steps with
  | refl => rfl
  | cons step _ inductionHypothesis => rw [step.scan_eq, inductionHypothesis, Scan.append_assoc]

/-- A step is possible as long as something is left of the text. -/
theorem exists_step {place : Place} (left : place.rest ≠ []) :
    ∃ read next, place.Step read next := by
  obtain ⟨position, last, rest⟩ := place
  obtain ⟨c, rest, rfl⟩ := List.exists_cons_of_ne_nil left
  by_cases separates : isSeparator c = true
  · exact ⟨_, _, .separator separates⟩
  · have word : isSeparator c = false := by simpa using separates
    cases found : nextToken? (afterComparator last) (c :: rest) with
    | none => exact ⟨_, _, .stray word found⟩
    | some read =>
      obtain ⟨kind, lexeme⟩ := read
      obtain ⟨behind, whole⟩ := nextToken?_isPrefix found
      rw [← whole] at found ⊢
      exact ⟨_, _, .token found⟩

/-- The characters that a step passes over. -/
theorem Step.exists_characters {place next : Place} {read : Scan} (step : place.Step read next) :
    ∃ characters, characters ≠ [] ∧ place.rest = characters ++ next.rest ∧
      next.position = place.position + Text.utf8Length characters := by
  cases step with
  | separator | stray => exact ⟨[_], List.cons_ne_nil _ _, rfl, rfl⟩
  | token found => exact ⟨_, nextToken?_ne_nil found, rfl, rfl⟩

theorem Steps.exists_characters {place finish : Place} {read : Scan}
    (steps : place.Steps read finish) :
    ∃ characters, place.rest = characters ++ finish.rest ∧
      finish.position = place.position + Text.utf8Length characters := by
  induction steps with
  | refl => exact ⟨[], rfl, rfl⟩
  | cons step _ inductionHypothesis =>
    obtain ⟨first, -, whole, stepped⟩ := step.exists_characters
    obtain ⟨others, wholeOthers, passed⟩ := inductionHypothesis
    refine ⟨first ++ others, by rw [whole, wholeOthers, List.append_assoc], ?_⟩
    rw [passed, stepped, Text.utf8Length_append, Nat.add_assoc]

/-- From every place, steps lead to the end of the text, and they read all that is read from there
on. -/
theorem exists_steps (place : Place) :
    ∃ finish, place.Steps place.scan finish ∧ finish.rest = [] := by
  -- By induction on how much of the text is left, of which every step takes some.
  induction remaining : place.rest.length using Nat.strongRecOn generalizing place with
  | _ length inductionHypothesis =>
    by_cases left : place.rest = []
    · have nothing : place.scan = ⟨[], []⟩ := by rw [scan, left, scanFrom]
      rw [nothing]
      exact ⟨place, .refl, left⟩
    · obtain ⟨read, next, step⟩ := exists_step left
      obtain ⟨characters, nonempty, whole, -⟩ := step.exists_characters
      have shorter : next.rest.length < length := by
        rw [← remaining, whole, List.length_append]
        have := List.length_pos_iff.mpr nonempty
        omega
      obtain ⟨finish, steps, ended⟩ := inductionHypothesis _ shorter next rfl
      rw [step.scan_eq]
      exact ⟨finish, .cons step steps, ended⟩

end Scanning

section Members

variable {place finish : Place} {read : Scan}

/-- The step in which a token is read. -/
theorem Steps.exists_step_of_token (steps : place.Steps read finish) {token : Token}
    (listed : token ∈ read.tokens) :
    ∃ before here next, place.Steps before here ∧ here.Step ⟨[token], []⟩ next := by
  induction steps with
  | refl => cases listed
  | cons step steps inductionHypothesis =>
    rcases List.mem_append.mp listed with first | later
    · cases step with
      | separator | stray => cases first
      | token found =>
        rw [List.mem_singleton.mp first]
        exact ⟨_, _, _, .refl, .token found⟩
    · obtain ⟨before, here, next, steps, last⟩ := inductionHypothesis later
      exact ⟨_, here, next, .cons step steps, last⟩

/-- The step in which a stray character is reported. -/
theorem Steps.exists_step_of_stray (steps : place.Steps read finish) {stray : Stray}
    (listed : stray ∈ read.strays) :
    ∃ before here next, place.Steps before here ∧ here.Step ⟨[], [stray]⟩ next := by
  induction steps with
  | refl => cases listed
  | cons step steps inductionHypothesis =>
    rcases List.mem_append.mp listed with first | later
    · cases step with
      | separator | token => cases first
      | stray word missing =>
        rw [List.mem_singleton.mp first]
        exact ⟨_, _, _, .refl, .stray word missing⟩
    · obtain ⟨before, here, next, steps, last⟩ := inductionHypothesis later
      exact ⟨_, here, next, .cons step steps, last⟩

/-- The step that passes over a position. -/
theorem Steps.exists_step_at (steps : place.Steps read finish) {offset : Nat}
    (behind : place.position ≤ offset) (before : offset < finish.position) :
    ∃ earlier here first next, place.Steps earlier here ∧ here.Step first next ∧
      here.position ≤ offset ∧ offset < next.position := by
  induction steps with
  | refl => omega
  | @cons place next _ _ _ step steps inductionHypothesis =>
    by_cases later : next.position ≤ offset
    · obtain ⟨earlier, here, first, last, steps, passes⟩ := inductionHypothesis later before
      exact ⟨_, here, first, last, .cons step steps, passes⟩
    · exact ⟨_, place, _, next, .refl, step, behind, by omega⟩

end Members

/-- Reading a text reaches a place. -/
def Reached (text : String) (place : Place) : Prop :=
  ∃ read, (start text).Steps read place

variable {text : String} {place next : Place}

/-- What was read before a place stands before it in the text. -/
theorem Reached.exists_front (reached : place.Reached text) :
    ∃ front, text.toList = front ++ place.rest ∧ place.position = Text.utf8Length front := by
  obtain ⟨read, steps⟩ := reached
  obtain ⟨front, whole, passed⟩ := steps.exists_characters
  exact ⟨front, whole, passed.trans (Nat.zero_add _)⟩

theorem Reached.step (reached : place.Reached text) {read : Scan} (step : place.Step read next) :
    next.Reached text := by
  obtain ⟨before, steps⟩ := reached
  exact ⟨_, steps.snoc step⟩

/-- What is read in a step from a place that is reached is read from the text. -/
theorem Reached.scan_eq (reached : place.Reached text) {read : Scan}
    (step : place.Step read next) :
    ∃ before behind : Scan, FilterQuery.scan text = before.append (read.append behind) := by
  obtain ⟨before, steps⟩ := reached
  exact ⟨before, next.scan, by rw [← scan_start, steps.scan_eq, step.scan_eq]⟩

end Place

section Order

/-- What was read lies between two positions, one thing behind the other. -/
structure Scan.Within (low high : Nat) (scan : Scan) : Prop where
  le : low ≤ high
  tokens : ∀ token ∈ scan.tokens, low ≤ token.position ∧ token.stop ≤ high
  strays : ∀ stray ∈ scan.strays, low ≤ stray.position ∧ stray.position < high
  tokensApart : scan.tokens.Pairwise fun first second => first.stop ≤ second.position
  straysApart : scan.strays.Pairwise fun first second => first.position < second.position
  apart : ∀ token ∈ scan.tokens, ∀ stray ∈ scan.strays,
    stray.position < token.position ∨ token.stop ≤ stray.position

theorem Scan.Within.append {low middle high : Nat} {first second : Scan}
    (lower : first.Within low middle) (upper : second.Within middle high) :
    (first.append second).Within low high where
  le := Nat.le_trans lower.le upper.le
  tokens token listed := by
    rcases List.mem_append.mp listed with early | late
    · exact ⟨(lower.tokens token early).1, Nat.le_trans (lower.tokens token early).2 upper.le⟩
    · exact ⟨Nat.le_trans lower.le (upper.tokens token late).1, (upper.tokens token late).2⟩
  strays stray listed := by
    rcases List.mem_append.mp listed with early | late
    · exact ⟨(lower.strays stray early).1, Nat.lt_of_lt_of_le (lower.strays stray early).2 upper.le⟩
    · exact ⟨Nat.le_trans lower.le (upper.strays stray late).1, (upper.strays stray late).2⟩
  tokensApart := List.pairwise_append.mpr ⟨lower.tokensApart, upper.tokensApart,
    fun token early other late =>
      Nat.le_trans (lower.tokens token early).2 (upper.tokens other late).1⟩
  straysApart := List.pairwise_append.mpr ⟨lower.straysApart, upper.straysApart,
    fun stray early other late =>
      Nat.lt_of_lt_of_le (lower.strays stray early).2 (upper.strays other late).1⟩
  apart token listed stray strayListed := by
    rcases List.mem_append.mp listed with early | late <;>
      rcases List.mem_append.mp strayListed with strayEarly | strayLate
    · exact lower.apart token early stray strayEarly
    · exact .inr (Nat.le_trans (lower.tokens token early).2 (upper.strays stray strayLate).1)
    · exact .inl (Nat.lt_of_lt_of_le (lower.strays stray strayEarly).2 (upper.tokens token late).1)
    · exact upper.apart token late stray strayLate

/-- What a step reads lies where the step passes. -/
theorem Place.Step.within {place next : Place} {read : Scan} (step : place.Step read next) :
    read.Within place.position next.position := by
  cases step with
  | separator separates =>
    exact ⟨Nat.le_add_right _ _, List.forall_mem_nil _, List.forall_mem_nil _, .nil, .nil,
      List.forall_mem_nil _⟩
  | token found =>
    exact ⟨Nat.le_add_right _ _,
      List.forall_mem_singleton.mpr ⟨Nat.le_refl _, Nat.le_of_eq (Token.stop_ofList _ _ _)⟩,
      List.forall_mem_nil _, List.pairwise_singleton _ _, .nil, fun _ _ => List.forall_mem_nil _⟩
  | @stray position last c rest word missing =>
    exact ⟨Nat.le_add_right _ _, List.forall_mem_nil _,
      List.forall_mem_singleton.mpr ⟨Nat.le_refl _, Nat.lt_add_of_pos_right c.utf8Size_pos⟩,
      .nil, List.pairwise_singleton _ _, List.forall_mem_nil _⟩

/-- What steps read lies where they pass, one thing behind the other. -/
theorem Place.Steps.within {place finish : Place} {read : Scan} (steps : place.Steps read finish) :
    read.Within place.position finish.position := by
  induction steps with
  | refl =>
    exact ⟨Nat.le_refl _, List.forall_mem_nil _, List.forall_mem_nil _, .nil, .nil,
      List.forall_mem_nil _⟩
  | cons step _ inductionHypothesis => exact step.within.append inductionHypothesis

end Order

end FilterQuery
