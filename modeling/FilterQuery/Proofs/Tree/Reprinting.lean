import FilterQuery.Proofs.Tree.Grouping
import FilterQuery.Proofs.Tree.Printing

/-!
# Reading the written form

The written form of a tree is read back to the same tree, but for positions, exactly if no member
has two neighbouring parts that fuse at the dot between them. This holds for every tree that some
words spell, and so for every tree that was read from a text in which every text token is one by
itself.
-/

namespace FilterQuery

/-- A tree without the positions of its literals. -/
def Expression.unplaced (expression : Expression) : Expression :=
  Expression.mapPosition (fun _ => 0) expression

section Spellings

theorem Token.agrees_of_kind {token other : Token} (kind : token.kind ∉ [.integer, .datetime]) :
    token.Agrees other :=
  fun fusible => absurd fusible kind

/-- Two tokens that spell one literal agree. -/
theorem Literal.NamedBy.agrees {literal : Literal} {first second : Token}
    (firstNamed : literal.NamedBy first) (secondNamed : literal.NamedBy second) :
    first.Agrees second := by
  intro fusible
  refine ⟨?_, secondNamed.text.symm.trans firstNamed.text⟩
  obtain ⟨firstInteger, firstDate, -⟩ := firstNamed.kind_iff
  obtain ⟨secondInteger, secondDate, -⟩ := secondNamed.kind_iff
  simp only [List.mem_cons, List.not_mem_nil, or_false] at fusible
  rcases fusible with isInteger | isDate
  · rw [isInteger, secondInteger, ← firstInteger, isInteger]
  · rw [isDate, secondDate, ← firstDate, isDate]

theorem Member.extend_inj {first second : Member} {left right : Literal}
    (same : first.extend left = second.extend right) : first = second ∧ left = right := by
  obtain ⟨head, fields⟩ := first
  obtain ⟨otherHead, otherFields⟩ := second
  simpa [extend, and_assoc] using same

/-- Two spellings of a member agree. -/
theorem Member.SpelledBy.agree {member : Member} {tokens others : List Token}
    (first : member.SpelledBy tokens) (second : member.SpelledBy others) :
    List.Forall₂ Token.Agrees tokens others := by
  induction first generalizing others with
  | @head literal token isSpelled =>
    generalize same : Member.ofLiteral literal = member at second
    cases second with
    | @head other _ otherSpelled =>
      obtain rfl : literal = other := congrArg Member.head same
      exact .cons (Literal.NamedBy.agrees (.value isSpelled) (.value otherSpelled)) .nil
    | field _ _ _ =>
      have fields := congrArg Member.fields same
      simp [Member.ofLiteral, Member.extend] at fields
  | @field member literal tokens dot token _ isDot named inductionHypothesis =>
    generalize same : member.extend literal = extended at second
    cases second with
    | head _ =>
      have fields := congrArg Member.fields same
      simp [Member.ofLiteral, Member.extend] at fields
    | field inner _ otherNamed =>
      obtain ⟨rfl, rfl⟩ := Member.extend_inj same
      refine List.rel_append (inductionHypothesis inner) ?_
      exact .cons (Token.agrees_of_kind (by simp [isDot])) (.cons (named.agrees otherNamed) .nil)

theorem Simple.SpelledBy.compare_inv {field argument : Member} {comparator : String}
    {tokens : List Token}
    (spelled : Simple.SpelledBy (.compare field comparator (some argument)) tokens) :
    ∃ left sign right, field.SpelledBy left ∧ argument.SpelledBy right ∧
      tokens = left ++ sign :: right := by
  cases spelled with
  | compare fieldSpelled _ argumentSpelled => exact ⟨_, _, _, fieldSpelled, argumentSpelled, rfl⟩

theorem Simple.SpelledBy.compareEach_inv {field : Member} {comparator : String}
    {values : List (List (List Term))} {tokens : List Token}
    (spelled : Simple.SpelledBy (.compareEach field comparator values) tokens) :
    ∃ left sign right, field.SpelledBy left ∧ Expression.EnclosedBy values right ∧
      tokens = left ++ sign :: right := by
  cases spelled with
  | compareEach fieldSpelled _ enclosed => exact ⟨_, _, _, fieldSpelled, enclosed, rfl⟩

/-- Spellings agree that agree on both sides of a separator. -/
theorem agree_separated {left right first second : List Token} {separator other : Token}
    (before : List.Forall₂ Token.Agrees left first)
    (kind : separator.kind ∉ [.integer, .datetime])
    (behind : List.Forall₂ Token.Agrees right second) :
    List.Forall₂ Token.Agrees (left ++ separator :: right) (first ++ other :: second) :=
  List.rel_append before (.cons (Token.agrees_of_kind kind) behind)

mutual

theorem Term.SpelledBy.agree {term : Term} {tokens others : List Token}
    (first : Term.SpelledBy term tokens) (second : Term.SpelledBy term others) :
    List.Forall₂ Token.Agrees tokens others := by
  match first with
  | .mk .plain inner =>
    cases second with
    | mk negation otherInner =>
      cases negation
      exact inner.agree otherInner
  | .mk (.negated isSign) inner =>
    cases second with
    | mk negation otherInner =>
      cases negation with
      | negated _ =>
        refine .cons (Token.agrees_of_kind fun fusible => ?_) (inner.agree otherInner)
        have kinds : ∀ kind ∈ [TokenKind.not, .minus], kind ∉ [TokenKind.integer, .datetime] := by
          decide
        exact kinds _ isSign fusible
termination_by structural first

theorem Simple.SpelledBy.agree {simple : Simple} {tokens others : List Token}
    (first : Simple.SpelledBy simple tokens) (second : Simple.SpelledBy simple others) :
    List.Forall₂ Token.Agrees tokens others := by
  match first with
  | .bare value =>
    cases second with
    | bare otherValue => exact value.agree otherValue
  | .compare field isSign argument =>
    obtain ⟨left, sign, right, otherField, otherArgument, rfl⟩ := second.compare_inv
    exact agree_separated (field.agree otherField) (by simp [isSign]) (argument.agree otherArgument)
  | .compareEach field isSign enclosed =>
    obtain ⟨left, sign, right, otherField, otherEnclosed, rfl⟩ := second.compareEach_inv
    exact agree_separated (field.agree otherField) (by simp [isSign]) (enclosed.agree otherEnclosed)
  | .group enclosed =>
    cases second with
    | group otherEnclosed => exact enclosed.agree otherEnclosed
termination_by structural first

theorem Expression.EnclosedBy.agree {expression : List (List (List Term))}
    {tokens others : List Token} (first : Expression.EnclosedBy expression tokens)
    (second : Expression.EnclosedBy expression others) :
    List.Forall₂ Token.Agrees tokens others := by
  match first with
  | .parentheses isOpening inner isClosing =>
    cases second with
    | parentheses _ otherInner _ =>
      refine .cons (Token.agrees_of_kind (by simp [isOpening])) ?_
      exact agree_separated (inner.agree otherInner) (by simp [isClosing]) .nil
termination_by structural first

theorem Expression.SpelledBy.agree {expression : List (List (List Term))}
    {tokens others : List Token} (first : Expression.SpelledBy expression tokens)
    (second : Expression.SpelledBy expression others) :
    List.Forall₂ Token.Agrees tokens others := by
  match first with
  | .last head =>
    cases second with
    | last otherHead => exact head.agree otherHead
    | cons _ _ otherTail => cases otherTail
  | .cons head isAnd tail =>
    cases second with
    | last _ => cases tail
    | cons otherHead _ otherTail =>
      exact agree_separated (head.agree otherHead) (by simp [isAnd]) (tail.agree otherTail)
termination_by structural first

theorem Sequence.SpelledBy.agree {sequence : List (List Term)} {tokens others : List Token}
    (first : Sequence.SpelledBy sequence tokens) (second : Sequence.SpelledBy sequence others) :
    List.Forall₂ Token.Agrees tokens others := by
  match first with
  | .last head =>
    cases second with
    | last otherHead => exact head.agree otherHead
    | cons _ otherTail => cases otherTail
  | .cons head tail =>
    cases second with
    | last _ => cases tail
    | cons otherHead otherTail =>
      exact List.rel_append (head.agree otherHead) (tail.agree otherTail)
termination_by structural first

theorem Factor.SpelledBy.agree {factor : List Term} {tokens others : List Token}
    (first : Factor.SpelledBy factor tokens) (second : Factor.SpelledBy factor others) :
    List.Forall₂ Token.Agrees tokens others := by
  match first with
  | .last head =>
    cases second with
    | last otherHead => exact head.agree otherHead
    | cons _ _ otherTail => cases otherTail
  | .cons head isOr tail =>
    cases second with
    | last _ => cases tail
    | cons otherHead _ otherTail =>
      exact agree_separated (head.agree otherHead) (by simp [isOr]) (tail.agree otherTail)
termination_by structural first

end

end Spellings

section Positions

variable (move : Nat → Nat) {expression : Expression} {tokens others : List Token}

/-- A tree and the tokens that spell it may stand elsewhere together. -/
theorem Expression.SpelledBy.mapPosition (spelled : Expression.SpelledBy expression tokens) :
    Expression.SpelledBy (Expression.mapPosition move expression)
      (tokens.map (Token.mapPosition move)) := by
  rw [← Parser.run_eq_ok_iff_spelledBy] at spelled ⊢
  exact Parser.run_mapPosition move spelled

/-- Tokens that differ in nothing but positions spell trees that do. -/
theorem Expression.SpelledBy.exists_of_mapPosition
    (spelled : Expression.SpelledBy expression tokens)
    (same : others.map (Token.mapPosition move) = tokens.map (Token.mapPosition move)) :
    ∃ other, Expression.SpelledBy other others ∧
      Expression.mapPosition move other = Expression.mapPosition move expression := by
  have moved := Parser.run_eq_ok_iff_spelledBy.mpr (spelled.mapPosition move)
  rw [← same] at moved
  obtain ⟨other, reads, placed⟩ := @Parser.exists_run_of_mapPosition move {} others _ moved
  exact ⟨other, Parser.run_eq_ok_iff_spelledBy.mp reads, placed⟩

end Positions

/-- The layout of words that spell a tree is read back to that tree, but for positions, exactly if
no dot fuses two of the words. -/
theorem exists_parse_layout_iff {expression : Expression} {tokens : List Token} {text : String}
    (spelled : Expression.SpelledBy expression tokens)
    (words : InTurn Token.IsWord false tokens) (written : text.toList = layout tokens)
    (visible : Text.isBlank text = false) :
    (∃ again, parse text = .ok again ∧ again.unplaced = expression.unplaced) ↔ Unfused tokens := by
  rw [← readInPlace_iff_unfused words]
  constructor
  · rintro ⟨again, parsed, same⟩
    obtain ⟨-, clean, spelledAgain⟩ := parse_eq_ok_iff_spelledBy.mp parsed
    have first := spelled.mapPosition fun _ => 0
    have second := spelledAgain.mapPosition fun _ => 0
    rw [show Expression.mapPosition (fun _ => 0) again = _ from same] at second
    have agree := first.agree second
    rw [List.forall₂_map_left_iff, List.forall₂_map_right_iff] at agree
    rw [scan, written] at clean agree
    exact readInPlace_of_agrees words clean agree
  · intro inPlace
    obtain ⟨clean, same⟩ := inPlace.scanFrom_eq words 0
    rw [← written] at clean same
    obtain ⟨again, spelledAgain, placed⟩ := spelled.exists_of_mapPosition _ same
    exact ⟨again, parse_eq_ok_iff_spelledBy.mpr ⟨visible, clean, spelledAgain⟩, placed⟩

section Negations

/-- A token as it is written: a minus sign that negates is written as the word for it. -/
def Token.printed (token : Token) : Token :=
  if token.kind = .minus then { token with kind := .not, text := "NOT" } else token

theorem Token.printed_of_ne {token : Token} (noMinus : token.kind ≠ .minus) :
    token.printed = token :=
  if_neg noMinus

theorem Token.printed_of_minus {token : Token} (isMinus : token.kind = .minus) :
    token.printed = { token with kind := .not, text := "NOT" } :=
  if_pos isMinus

namespace Parser

/-- Where a minus sign may stand, the word for it may. -/
theorem State.step?_printed {state next : State} {token : Token}
    (stepped : state.step? token = some next) : state.step? token.printed = some next := by
  by_cases isMinus : token.kind = .minus
  · rw [Token.printed_of_minus isMinus]
    obtain ⟨kind, text, position⟩ := token
    obtain rfl : kind = .minus := isMinus
    obtain ⟨frames, progress, focus⟩ := state
    cases focus with
    | start | member | argument | closed => exact stepped
    | negation | memberDot | compared | argumentDot => cases stepped
  · rwa [Token.printed_of_ne isMinus]

theorem run_printed {state : State} {tokens : List Token} {expression : Expression}
    (complete : run state tokens = .ok expression) :
    run state (tokens.map Token.printed) = .ok expression := by
  induction tokens generalizing state with
  | nil => exact complete
  | cons token rest inductionHypothesis =>
    rw [run] at complete
    cases stepped : state.step? token with
    | none => simp [stepped] at complete
    | some next =>
      rw [stepped] at complete
      rw [List.map_cons, run, State.step?_printed stepped]
      exact inductionHypothesis complete

end Parser

/-- A tree is spelled by its tokens as they are written. -/
theorem Expression.SpelledBy.printed {expression : Expression} {tokens : List Token}
    (spelled : Expression.SpelledBy expression tokens) :
    Expression.SpelledBy expression (tokens.map Token.printed) := by
  rw [← Parser.run_eq_ok_iff_spelledBy] at spelled ⊢
  exact Parser.run_printed spelled

end Negations

section Texts

/-- The members of a tree from left to right. -/
def Expression.members (expression : Expression) : List Member :=
  (Expression.restrictions none expression).flatMap Restriction.members

/-- Words that spell a tree are written as its written form, if no minus sign is among them. -/
theorem Expression.SpelledBy.exists_render {expression : Expression} {tokens : List Token}
    (spelled : Expression.SpelledBy expression tokens) (words : InTurn Token.IsWord false tokens)
    (noMinus : ∀ token ∈ tokens, token.kind ≠ .minus) :
    ∃ printed, expression.render? = some printed ∧ printed.toList = layout tokens ∧
      (Unfused tokens ↔ ∀ member ∈ expression.members, member.IsApart) := by
  have written : ∀ token ∈ tokens, token.IsWritten := by
    intro token listed
    obtain ⟨after, isWord⟩ := words.exists_of_mem listed
    exact ⟨noMinus token listed, fun _ only => isWord.text_eq only⟩
  obtain ⟨parts, rendered, -, prints⟩ := spelled.prints none written
  exact ⟨" AND ".intercalate parts, by simp [Expression.render?, rendered], prints.text_eq,
    prints.apart⟩

/-- What words spell without a minus sign is read back from its written form, but for positions,
exactly if no two neighbouring parts of a member fuse. -/
theorem Expression.SpelledBy.exists_parse_render_iff {expression : Expression}
    {tokens : List Token} (spelled : Expression.SpelledBy expression tokens)
    (words : InTurn Token.IsWord false tokens) (noMinus : ∀ token ∈ tokens, token.kind ≠ .minus)
    (visible : ∃ token ∈ tokens, ∃ c ∈ token.text.toList, Text.isSpace c = false) :
    ∃ printed, expression.render? = some printed ∧
      ((∃ again, parse printed = .ok again ∧ again.unplaced = expression.unplaced) ↔
        ∀ member ∈ expression.members, member.IsApart) := by
  obtain ⟨printed, rendered, written, apart⟩ := spelled.exists_render words noMinus
  have notBlank : Text.isBlank printed = false := by
    obtain ⟨token, listed, c, character, noSpace⟩ := visible
    refine List.all_eq_false.mpr ⟨c, ?_, by simp [noSpace]⟩
    rw [written]
    exact mem_layout listed character
  exact ⟨printed, rendered, (exists_parse_layout_iff spelled words written notBlank).trans apart⟩

variable {text : String} {expression : Expression}

/-- The tokens of a text are words as they are written, if its text tokens are. -/
theorem printed_inTurn
    (alone : ∀ token ∈ (scan text).tokens, token.kind = .text → token.IsWord false) :
    InTurn Token.IsWord false ((scan text).tokens.map Token.printed) := by
  refine InTurn.map ?_ ?_ (scanFrom_inTurn 0 false 0 text.toList)
  · intro token
    by_cases isMinus : token.kind = .minus
    · rw [Token.printed_of_minus isMinus, isMinus]
      rfl
    · rw [Token.printed_of_ne isMinus]
  · rintro after token listed ⟨rest, found⟩
    by_cases isMinus : token.kind = .minus
    · rw [Token.printed_of_minus isMinus]
      exact isWord_of_mem_spellings (List.mem_singleton_self "NOT")
    · rw [Token.printed_of_ne isMinus]
      by_cases isText : token.kind = .text
      · exact IsWord.of_false (alone token listed isText) isMinus after
      · exact isWord_of_nextToken? found isText

/-- Of a text that is not blank, something is written that is not blank. -/
theorem exists_visible (parsed : parse text = .ok expression) :
    ∃ token ∈ (scan text).tokens.map Token.printed, ∃ c ∈ token.text.toList,
      Text.isSpace c = false := by
  obtain ⟨notBlank, clean, -⟩ := parse_eq_ok_iff_spelledBy.mp parsed
  obtain ⟨c, listed, noSpace⟩ := List.all_eq_false.mp notBlank
  have noSeparator : isSeparator c = false := by
    refine Bool.eq_false_iff.mpr fun separator => noSpace ?_
    have spaces : ∀ c ∈ [' ', '\t', '\n', '\r', '\x0c'], Text.isSpace c = true :=
      List.all_iff_forall_prop.mp (by decide)
    exact spaces c (by simpa [isSeparator, or_assoc] using separator)
  obtain ⟨token, member, character⟩ := exists_token_of_mem noSeparator (by simpa using listed) clean
  refine ⟨token.printed, List.mem_map_of_mem member, ?_⟩
  by_cases isMinus : token.kind = .minus
  · rw [Token.printed_of_minus isMinus]
    exact ⟨'N', show 'N' ∈ "NOT".toList by decide, by decide⟩
  · rw [Token.printed_of_ne isMinus]
    exact ⟨c, character, by simpa using noSpace⟩

/-- Not every filter is read back from its written form: a whole number, a dot and a whole number
with blanks between them are written as one number. -/
theorem parse_render_fuses :
    ¬ ∀ text expression, parse text = .ok expression →
      ∃ printed again, expression.render? = some printed ∧ parse printed = .ok again ∧
        again.unplaced = expression.unplaced := by
  intro identity
  have parsed : parse "a = 1 . 5" = .ok [[[.mk false (.compare ⟨⟨.text, "a", 0⟩, []⟩ "="
      (some ⟨⟨.integer, "1", 4⟩, [⟨.integer, "5", 8⟩]⟩))]]] := rfl
  obtain ⟨printed, again, rendered, reparsed, same⟩ := identity _ _ parsed
  obtain rfl : "a = 1.5" = printed := Option.some.inj rendered
  have fused : parse "a = 1.5" = .ok [[[.mk false (.compare ⟨⟨.text, "a", 0⟩, []⟩ "="
      (some ⟨⟨.float, "1.5", 4⟩, []⟩))]]] := rfl
  obtain rfl := Except.ok.inj (fused.symm.trans reparsed)
  cases same

/-- The written form of a filter is read back to the filter, but for positions, exactly if no member
has neighbouring parts that fuse at the dot between them. This is said of texts in which every text
token is one by itself. -/
theorem parse_render_iff_apart (parsed : parse text = .ok expression)
    (alone : ∀ token ∈ (scan text).tokens, token.kind = .text → token.IsWord false) :
    ∃ printed, expression.render? = some printed ∧
      ((∃ again, parse printed = .ok again ∧ again.unplaced = expression.unplaced) ↔
        ∀ member ∈ expression.members, member.IsApart) := by
  refine (spelledBy_of_parse parsed).printed.exists_parse_render_iff (printed_inTurn alone) ?_
    (exists_visible parsed)
  intro token listed
  obtain ⟨original, -, rfl⟩ := List.mem_map.mp listed
  by_cases isMinus : original.kind = .minus
  · simp [Token.printed_of_minus isMinus]
  · rwa [Token.printed_of_ne isMinus]

/-- A negated comparison with a signed number, and a group with a date and its field. -/
theorem parse_render_iff_apart_dated :
    ∃ expression, parse "-a . 7>-1 OR d:(2024-01-01T10:00:00 . x)" = .ok expression ∧
      (∀ token ∈ (scan "-a . 7>-1 OR d:(2024-01-01T10:00:00 . x)").tokens,
        token.kind = .text → token.IsWord false) ∧
      expression.render? = some "NOT a.7 > -1 OR d : (2024-01-01T10:00:00.x)" ∧
      ∃ again, parse "NOT a.7 > -1 OR d : (2024-01-01T10:00:00.x)" = .ok again ∧
        again.unplaced = expression.unplaced := by
  have parsed : parse "-a . 7>-1 OR d:(2024-01-01T10:00:00 . x)" = .ok [[[
      .mk true (.compare ⟨⟨.text, "a", 1⟩, [⟨.integer, "7", 5⟩]⟩ ">"
        (some ⟨⟨.integer, "-1", 7⟩, []⟩)),
      .mk false (.compareEach ⟨⟨.text, "d", 13⟩, []⟩ ":" [[[.mk false (.bare
        ⟨⟨.datetime, "2024-01-01T10:00:00", 16⟩, [⟨.text, "x", 38⟩]⟩)]]])]]] := rfl
  have alone : ∀ token ∈ (scan "-a . 7>-1 OR d:(2024-01-01T10:00:00 . x)").tokens,
      token.kind = .text → token.IsWord false := by
    unfold Token.IsWord IsWord
    decide
  obtain ⟨printed, rendered, readBack⟩ := parse_render_iff_apart parsed alone
  obtain rfl : "NOT a.7 > -1 OR d : (2024-01-01T10:00:00.x)" = printed := Option.some.inj rendered
  refine ⟨_, parsed, alone, rendered, readBack.mpr ?_⟩
  simp [Expression.members, Expression.restrictions, Sequence.restrictions, Factor.restrictions,
    Term.restrictions, Simple.restrictions, Restriction.members, Member.IsApart, Member.parts,
    Literal.Fuses, startsWithDigit]

end Texts

end FilterQuery
