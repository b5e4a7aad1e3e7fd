import FilterQuery.Proofs.Token.Coverage
import FilterQuery.Proofs.Tree.Printing

/-!
# Minus signs

A minus sign is the sign of a number only directly behind a comparator. There the grammar has the
head of an argument or a parenthesis, so no other value of a tree starts with a minus sign, however
deep the tree is nested. Every other minus sign negates a term.

To say so, a tree is written out as the slots that its tokens fill, from left to right. Each slot is
filled by one token.
-/

namespace FilterQuery

/-- What a literal is to the condition that it stands in. -/
inductive Role where
  | comparable
  | argument
  | bare
  | part
deriving DecidableEq, Repr

/-- What a token of a filter is to its tree: it negates a condition, it spells a literal, or it
stands between such tokens. -/
inductive Slot where
  | negation (condition : Simple)
  | literal (role : Role) (literal : Literal)
  | mark

/-- The slots of a member whose head has the given role, with a mark for each dot. -/
def Member.slots (role : Role) (member : Member) : List Slot :=
  .literal role member.head :: member.fields.flatMap fun field => [.mark, .literal .part field]

mutual

/-- The slots of a term. -/
def Term.slots : Term → List Slot
  | .mk negated simple => (if negated then [.negation simple] else []) ++ simple.slots

/-- The slots of a condition, with marks for its comparator and its parentheses. -/
def Simple.slots : Simple → List Slot
  | .missing => []
  | .bare value => value.slots .bare
  | .compare field _ argument =>
    field.slots .comparable ++ .mark :: (argument.map (Member.slots .argument)).getD []
  | .compareEach field _ values =>
    field.slots .comparable ++ .mark :: .mark :: (Expression.slots values ++ [.mark])
  | .group expression => .mark :: (Expression.slots expression ++ [.mark])

/-- The slots of an expression, with marks for the conjunctions. -/
def Expression.slots : List (List (List Term)) → List Slot
  | [] => []
  | [sequence] => Sequence.slots sequence
  | sequence :: rest => Sequence.slots sequence ++ .mark :: Expression.slots rest

/-- The slots of a sequence. -/
def Sequence.slots : List (List Term) → List Slot
  | [] => []
  | factor :: rest => Factor.slots factor ++ Sequence.slots rest

/-- The slots of a factor, with marks for the disjunctions. -/
def Factor.slots : List Term → List Slot
  | [] => []
  | [term] => term.slots
  | term :: rest => term.slots ++ .mark :: Factor.slots rest

end

/-- A token fills a slot, given whether a comparator stands before it. -/
inductive Slot.FilledBy (after : Bool) : Slot → Token → Prop where
  | negation {condition : Simple} {token : Token} (isNegation : token.kind ∈ [.not, .minus])
      (apart : after = false) : FilledBy after (.negation condition) token
  | literal {role : Role} {literal : Literal} {token : Token} (named : literal.NamedBy token)
      (isArgument : after = true → role = .argument) : FilledBy after (.literal role literal) token
  | mark {token : Token}
      (isMark : token.kind ∈ [.and, .or, .comparator, .dot, .leftParen, .rightParen]) :
      FilledBy after .mark token

/-- Tokens fill slots one by one. The two flags tell whether a comparator stands before the first of
them, and whether the last of them is one. -/
inductive Aligned : Bool → List Slot → List Token → Bool → Prop where
  | nil {after : Bool} : Aligned after [] [] after
  | cons {after last : Bool} {slot : Slot} {slots : List Slot} {token : Token} {tokens : List Token}
      (filled : slot.FilledBy after token)
      (others : Aligned (token.kind == .comparator) slots tokens last) :
      Aligned after (slot :: slots) (token :: tokens) last

section Alignment

theorem Aligned.append {after middle last : Bool} {slots moreSlots : List Slot}
    {tokens moreTokens : List Token} (first : Aligned after slots tokens middle)
    (second : Aligned middle moreSlots moreTokens last) :
    Aligned after (slots ++ moreSlots) (tokens ++ moreTokens) last := by
  induction first with
  | nil => exact second
  | cons filled _ inductionHypothesis => exact .cons filled (inductionHypothesis second)

theorem Aligned.single {after : Bool} {slot : Slot} {token : Token}
    (filled : slot.FilledBy after token) (noComparator : token.kind ≠ .comparator) :
    Aligned after [slot] [token] false := by
  refine .cons filled ?_
  rw [beq_eq_false_iff_ne.mpr noComparator]
  exact .nil

/-- A token that spells a literal is neither a comparator nor a minus sign. -/
theorem Literal.NamedBy.kind_ne {literal : Literal} {token : Token}
    (named : literal.NamedBy token) : token.kind ≠ .comparator ∧ token.kind ≠ .minus := by
  have values : ∀ pair ∈ valueClasses, pair.1 ≠ .comparator ∧ pair.1 ≠ .minus := by decide
  have keywords : ∀ kind ∈ [TokenKind.and, .or, .not], kind ≠ .comparator ∧ kind ≠ .minus := by
    decide
  cases named with
  | value spelled => exact values _ spelled.kind
  | keyword isKeyword => exact keywords _ isKeyword

theorem Member.slots_extend (role : Role) (member : Member) (literal : Literal) :
    (member.extend literal).slots role = member.slots role ++ [.mark, .literal .part literal] := by
  simp [Member.slots, Member.extend]

/-- The tokens of a member fill its slots. Directly behind a comparator, the member is an
argument. -/
theorem Member.SpelledBy.aligned {member : Member} {tokens : List Token}
    (spelled : member.SpelledBy tokens) {after : Bool} {role : Role}
    (isArgument : after = true → role = .argument) :
    Aligned after (member.slots role) tokens false := by
  induction spelled with
  | head isSpelled =>
    have named := Literal.NamedBy.value isSpelled
    exact .single (.literal named isArgument) named.kind_ne.1
  | field _ isDot named inductionHypothesis =>
    rw [Member.slots_extend]
    refine inductionHypothesis.append (.cons (.mark (by simp [isDot])) ?_)
    rw [isDot]
    exact .single (.literal named fun after => by cases after) named.kind_ne.1

/-- A negation is no comparator. -/
theorem NegatedBy.aligned {negated : Bool} {sign : List Token} (isNegated : NegatedBy negated sign)
    (condition : Simple) :
    Aligned false (if negated then [.negation condition] else []) sign false := by
  cases isNegated with
  | plain => exact .nil
  | @negated token isNegation =>
    refine .single (.negation isNegation rfl) fun isComparator => ?_
    rw [isComparator] at isNegation
    exact absurd isNegation (by decide)

theorem Expression.slots_cons (sequence : List (List Term)) {rest : List (List (List Term))}
    (nonempty : rest.isEmpty = false) :
    Expression.slots (sequence :: rest) =
      Sequence.slots sequence ++ .mark :: Expression.slots rest := by
  cases rest with
  | nil => cases nonempty
  | cons next others =>
    rw [Expression.slots]
    exact List.cons_ne_nil next others

theorem Factor.slots_cons (term : Term) {rest : List Term} (nonempty : rest.isEmpty = false) :
    Factor.slots (term :: rest) = term.slots ++ .mark :: Factor.slots rest := by
  cases rest with
  | nil => cases nonempty
  | cons next others =>
    rw [Factor.slots]
    exact List.cons_ne_nil next others

/-- A mark that is no comparator lets what follows it stand as at the start. -/
theorem Aligned.mark {after last : Bool} {slots : List Slot} {token : Token} {tokens : List Token}
    (isMark : token.kind ∈ [.and, .or, .dot, .leftParen, .rightParen])
    (others : Aligned false slots tokens last) :
    Aligned after (.mark :: slots) (token :: tokens) last := by
  have kinds : ∀ kind ∈ [TokenKind.and, .or, .dot, .leftParen, .rightParen],
      kind ∈ [TokenKind.and, .or, .comparator, .dot, .leftParen, .rightParen] ∧
        (kind == .comparator) = false := by decide
  obtain ⟨listed, noComparator⟩ := kinds token.kind isMark
  refine .cons (.mark listed) ?_
  rwa [noComparator]

mutual

theorem Term.SpelledBy.aligned {term : Term} {tokens : List Token}
    (spelled : Term.SpelledBy term tokens) : Aligned false term.slots tokens false := by
  match spelled with
  | .mk negated inner => exact (negated.aligned _).append inner.aligned

theorem Simple.SpelledBy.aligned {simple : Simple} {tokens : List Token}
    (spelled : Simple.SpelledBy simple tokens) : Aligned false simple.slots tokens false := by
  -- Only the argument and the parenthesis of a group stand directly behind a comparator.
  match spelled with
  | .bare value => exact value.aligned fun after => by cases after
  | .compare field isSign argument =>
    refine (field.aligned fun after => by cases after).append (.cons (.mark (by simp [isSign])) ?_)
    exact argument.aligned fun _ => rfl
  | .compareEach field isSign values =>
    refine (field.aligned fun after => by cases after).append (.cons (.mark (by simp [isSign])) ?_)
    exact values.aligned _
  | .group expression => exact expression.aligned false

theorem Expression.EnclosedBy.aligned {expression : List (List (List Term))} {tokens : List Token}
    (enclosed : Expression.EnclosedBy expression tokens) (after : Bool) :
    Aligned after (.mark :: (Expression.slots expression ++ [.mark])) tokens false := by
  match enclosed with
  | .parentheses isOpening inner isClosing =>
    exact .mark (by simp [isOpening]) (inner.aligned.append (.mark (by simp [isClosing]) .nil))

theorem Expression.SpelledBy.aligned {expression : List (List (List Term))} {tokens : List Token}
    (spelled : Expression.SpelledBy expression tokens) :
    Aligned false (Expression.slots expression) tokens false := by
  match spelled with
  | .last head => exact head.aligned
  | .cons head isAnd tail =>
    rw [Expression.slots_cons _ tail.isEmpty_eq_false]
    exact head.aligned.append (.mark (by simp [isAnd]) tail.aligned)

theorem Sequence.SpelledBy.aligned {sequence : List (List Term)} {tokens : List Token}
    (spelled : Sequence.SpelledBy sequence tokens) :
    Aligned false (Sequence.slots sequence) tokens false := by
  match spelled with
  | .last head =>
    simp only [Sequence.slots, List.append_nil]
    exact head.aligned
  | .cons head tail => exact head.aligned.append tail.aligned

theorem Factor.SpelledBy.aligned {factor : List Term} {tokens : List Token}
    (spelled : Factor.SpelledBy factor tokens) :
    Aligned false (Factor.slots factor) tokens false := by
  match spelled with
  | .last head => exact head.aligned
  | .cons head isOr tail =>
    rw [Factor.slots_cons _ tail.isEmpty_eq_false]
    exact head.aligned.append (.mark (by simp [isOr]) tail.aligned)

end

end Alignment

section Signs

/-- A text that starts with a minus sign. -/
def IsSigned (text : String) : Prop := text.toList.head? = some '-'

/-- A token that starts with a minus sign is that sign, or it is a number directly behind a
comparator. -/
theorem Token.IsReadFrom.kind_of_isSigned {after : Bool} {token : Token}
    (read : token.IsReadFrom after) (signed : IsSigned token.text) :
    token.kind = .minus ∨ (after = true ∧ token.kind ∈ numberKinds) := by
  obtain ⟨rest, found⟩ := read
  obtain ⟨tail, characters⟩ := List.head?_eq_some_iff.mp signed
  rw [characters, List.cons_append] at found
  rcases nextToken?_eq_some_iff.mp found with
    ⟨-, isMinus, -⟩ | ⟨noNegation, earlier, lexicalClass, later, order, kind, taken, -⟩
  · exact .inl isMinus
  · refine .inr ⟨(startsNegation_eq_false_iff.mp noNegation).1, ?_⟩
    rw [← kind]
    by_contra noNumber
    have missing := lexeme?_minus (by simp [order]) noNumber (tail ++ rest)
    cases missing.symm.trans taken

/-- What a token is to a slot that it fills, if it starts with a minus sign: it negates a condition,
or it is a number, and the argument of a comparison starts with it. -/
inductive Slot.IsSignFor (token : Token) : Slot → Prop where
  | negation {condition : Simple} (isMinus : token.kind = .minus) :
      IsSignFor token (.negation condition)
  | argument {literal : Literal} (isNumber : literal.kind ∈ [.duration, .float, .integer])
      (text : literal.text = token.text) : IsSignFor token (.literal .argument literal)

theorem Slot.FilledBy.isSignFor {after : Bool} {slot : Slot} {token : Token}
    (filled : slot.FilledBy after token) (read : token.IsReadFrom after)
    (signed : IsSigned token.text) : slot.IsSignFor token := by
  have marks : ∀ kind ∈ [TokenKind.and, .or, .comparator, .dot, .leftParen, .rightParen],
      kind ≠ .minus ∧ kind ∉ numberKinds := by decide
  rcases read.kind_of_isSigned signed with isMinus | ⟨isAfter, isNumber⟩
  · cases filled with
    | negation _ _ => exact .negation isMinus
    | literal named _ => exact absurd isMinus named.kind_ne.2
    | mark isMark => exact absurd isMinus (marks token.kind isMark).1
  · cases filled with
    | negation _ apart => cases isAfter.symm.trans apart
    | literal named isArgument =>
      rw [isArgument isAfter]
      exact .argument (named.kind_iff.2.2.mp isNumber) named.text
    | mark isMark => exact absurd isNumber (marks token.kind isMark).2

/-- A token fills a slot, and it negates something or is the sign of an argument if it starts with a
minus sign. -/
def Slot.TakenBy (slot : Slot) (token : Token) : Prop :=
  (∃ after, slot.FilledBy after token) ∧ (IsSigned token.text → slot.IsSignFor token)

theorem Slot.TakenBy.role_of_isSigned {role : Role} {literal : Literal} {token : Token}
    (taken : (Slot.literal role literal).TakenBy token) (signed : IsSigned literal.text) :
    role = .argument ∧ literal.kind ∈ [.duration, .float, .integer] := by
  obtain ⟨⟨after, filled⟩, sign⟩ := taken
  cases filled with
  | literal named _ =>
    rw [named.text] at signed
    cases sign signed with
    | argument isNumber _ => exact ⟨rfl, isNumber⟩

theorem Aligned.forall₂ {after last : Bool} {slots : List Slot} {tokens : List Token}
    (aligned : Aligned after slots tokens last) (inTurn : InTurn Token.IsReadFrom after tokens) :
    List.Forall₂ Slot.TakenBy slots tokens := by
  induction aligned with
  | nil => exact .nil
  | cons filled _ inductionHypothesis =>
    obtain ⟨read, others⟩ := inTurn
    exact .cons ⟨⟨_, filled⟩, filled.isSignFor read⟩ (inductionHypothesis others)

/-- In a filter that was read from text, the only literals that start with a minus sign are numbers
that an argument of a comparison starts with. Every other token that starts with one negates a
term. -/
theorem signed_literals_are_arguments {text : String} {expression : Expression}
    (parsed : parse text = .ok expression) :
    (∀ role literal, Slot.literal role literal ∈ Expression.slots expression →
      IsSigned literal.text →
        role = .argument ∧ literal.kind ∈ [.duration, .float, .integer]) ∧
    ∃ list, tokenize text = .ok list ∧
      List.Forall₂ Slot.TakenBy (Expression.slots expression) list.tokens := by
  obtain ⟨-, clean, spelled⟩ := parse_eq_ok_iff_spelledBy.mp parsed
  have taken := spelled.aligned.forall₂ (scanFrom_inTurn 0 false 0 text.toList)
  have each : ∀ slot ∈ Expression.slots expression, ∃ token, slot.TakenBy token :=
    ((List.forall₂_and_left _ _).mp
      (taken.imp fun slot token isTaken => ⟨⟨token, isTaken⟩, isTaken⟩)).1
  refine ⟨fun role literal listed signed => ?_, _, tokenize_eq_ok_iff.mpr ⟨clean, rfl⟩, taken⟩
  obtain ⟨token, isTaken⟩ := each _ listed
  exact isTaken.role_of_isSigned signed

/-- Signs of numbers and negations side by side, in and out of the group of a field. -/
theorem signed_literals_are_arguments_nested :
    ∃ expression list, parse "-a=-5 -(b:(-c OR d.e) OR f>-1.5s)" = .ok expression ∧
      tokenize "-a=-5 -(b:(-c OR d.e) OR f>-1.5s)" = .ok list ∧
      list.tokens.filter (fun token => token.text.toList.head? == some '-') =
        [⟨.minus, "-", 0⟩, ⟨.integer, "-5", 3⟩, ⟨.minus, "-", 6⟩, ⟨.minus, "-", 11⟩,
          ⟨.duration, "-1.5s", 27⟩] ∧
      List.Forall₂ Slot.TakenBy (Expression.slots expression) list.tokens := by
  have parsed : parse "-a=-5 -(b:(-c OR d.e) OR f>-1.5s)" = .ok _ := rfl
  obtain ⟨list, tokenized, taken⟩ := (signed_literals_are_arguments parsed).2
  refine ⟨_, list, parsed, tokenized, ?_, taken⟩
  cases tokenized
  rfl

end Signs

end FilterQuery
