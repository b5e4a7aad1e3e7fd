import FilterQuery.Tree.Parser

/-!
# The grammar of filters

`SpelledBy` relates trees to the lists of tokens that spell them, rule by rule and without a parser:
sequences are separated by `AND`, factors stand one after the other, terms are separated by `OR`,
one token negates a term, a comparator stands between a field and its argument, dots stand between
the parts of a member, and a group stands in parentheses.

No list of a spelled tree is empty, at any level.
-/

namespace FilterQuery

/-- The classes of tokens that are values, with the classes of the literals that they spell. -/
def valueClasses : List (TokenKind × LiteralKind) := [
  (.integer, .integer), (.float, .float), (.boolean, .boolean), (.duration, .duration),
  (.datetime, .datetime), (.string, .string), (.text, .text), (.asterisk, .asterisk)]

/-- A literal is spelled by one token, whose text and position it keeps. -/
structure Literal.SpelledBy (literal : Literal) (token : Token) : Prop where
  kind : (token.kind, literal.kind) ∈ valueClasses
  text : literal.text = token.text
  position : literal.position = token.position

/-- Behind a dot, a keyword spells a text. -/
inductive Literal.NamedBy : Literal → Token → Prop where
  | value {literal : Literal} {token : Token} : literal.SpelledBy token → NamedBy literal token
  | keyword {token : Token} : token.kind ∈ [.and, .or, .not] →
      NamedBy ⟨.text, token.text, token.position⟩ token

/-- A member is spelled by its parts with dots between them. -/
inductive Member.SpelledBy : Member → List Token → Prop where
  | head {literal : Literal} {token : Token} : literal.SpelledBy token →
      SpelledBy (.ofLiteral literal) [token]
  | field {member : Member} {literal : Literal} {tokens : List Token} {dot token : Token} :
      SpelledBy member tokens → dot.kind = .dot → literal.NamedBy token →
      SpelledBy (member.extend literal) (tokens ++ [dot, token])

/-- A negation is one token, and no token spells that there is none. -/
inductive NegatedBy : Bool → List Token → Prop where
  | plain : NegatedBy false []
  | negated {token : Token} : token.kind ∈ [.not, .minus] → NegatedBy true [token]

mutual

/-- A term is spelled by its negation and its condition. -/
inductive Term.SpelledBy : Term → List Token → Prop where
  | mk {negated : Bool} {simple : Simple} {sign tokens : List Token} :
      NegatedBy negated sign → Simple.SpelledBy simple tokens →
      Term.SpelledBy (.mk negated simple) (sign ++ tokens)

/-- A condition is spelled by a member, by a field, a comparator and an argument, or by a group. -/
inductive Simple.SpelledBy : Simple → List Token → Prop where
  | bare {value : Member} {tokens : List Token} : value.SpelledBy tokens →
      Simple.SpelledBy (.bare value) tokens
  | compare {field argument : Member} {left right : List Token} {sign : Token} :
      field.SpelledBy left → sign.kind = .comparator → argument.SpelledBy right →
      Simple.SpelledBy (.compare field sign.text (some argument)) (left ++ sign :: right)
  | compareEach {field : Member} {values : List (List (List Term))} {left right : List Token}
      {sign : Token} :
      field.SpelledBy left → sign.kind = .comparator → Expression.EnclosedBy values right →
      Simple.SpelledBy (.compareEach field sign.text values) (left ++ sign :: right)
  | group {expression : List (List (List Term))} {tokens : List Token} :
      Expression.EnclosedBy expression tokens → Simple.SpelledBy (.group expression) tokens

/-- A group is spelled by an expression in parentheses. -/
inductive Expression.EnclosedBy : List (List (List Term)) → List Token → Prop where
  | parentheses {expression : List (List (List Term))} {opening closing : Token}
      {tokens : List Token} :
      opening.kind = .leftParen → Expression.SpelledBy expression tokens →
      closing.kind = .rightParen →
      Expression.EnclosedBy expression (opening :: (tokens ++ [closing]))

/-- An expression is spelled by its sequences with `AND` between them. -/
inductive Expression.SpelledBy : List (List (List Term)) → List Token → Prop where
  | last {sequence : List (List Term)} {tokens : List Token} :
      Sequence.SpelledBy sequence tokens → Expression.SpelledBy [sequence] tokens
  | cons {sequence : List (List Term)} {rest : List (List (List Term))} {first others : List Token}
      {separator : Token} :
      Sequence.SpelledBy sequence first → separator.kind = .and →
      Expression.SpelledBy rest others →
      Expression.SpelledBy (sequence :: rest) (first ++ separator :: others)

/-- A sequence is spelled by its factors with nothing between them. -/
inductive Sequence.SpelledBy : List (List Term) → List Token → Prop where
  | last {factor : List Term} {tokens : List Token} :
      Factor.SpelledBy factor tokens → Sequence.SpelledBy [factor] tokens
  | cons {factor : List Term} {rest : List (List Term)} {first others : List Token} :
      Factor.SpelledBy factor first → Sequence.SpelledBy rest others →
      Sequence.SpelledBy (factor :: rest) (first ++ others)

/-- A factor is spelled by its terms with `OR` between them. -/
inductive Factor.SpelledBy : List Term → List Token → Prop where
  | last {term : Term} {tokens : List Token} :
      Term.SpelledBy term tokens → Factor.SpelledBy [term] tokens
  | cons {term : Term} {rest : List Term} {first others : List Token} {separator : Token} :
      Term.SpelledBy term first → separator.kind = .or → Factor.SpelledBy rest others →
      Factor.SpelledBy (term :: rest) (first ++ separator :: others)

end

mutual

/-- Whether no list inside a term is empty. -/
def Term.isFilled : Term → Bool
  | .mk _ simple => simple.isFilled

/-- Whether no list inside a condition is empty. -/
def Simple.isFilled : Simple → Bool
  | .missing | .bare _ | .compare _ _ _ => true
  | .compareEach _ _ expression | .group expression =>
    !expression.isEmpty && Expression.areFilled expression

/-- Whether no sequence of an expression is empty, nor any list inside of one. -/
def Expression.areFilled : List (List (List Term)) → Bool
  | [] => true
  | sequence :: rest =>
    !sequence.isEmpty && Sequence.areFilled sequence && Expression.areFilled rest

/-- Whether no factor of a sequence is empty, nor any list inside of one. -/
def Sequence.areFilled : List (List Term) → Bool
  | [] => true
  | factor :: rest => !factor.isEmpty && Factor.areFilled factor && Sequence.areFilled rest

/-- Whether no list inside the terms of a factor is empty. -/
def Factor.areFilled : List Term → Bool
  | [] => true
  | term :: rest => term.isFilled && Factor.areFilled rest

end

/-- Whether no list of an expression is empty, at any level. -/
def Expression.isFilled (expression : Expression) : Bool :=
  !expression.isEmpty && Expression.areFilled expression

theorem Expression.SpelledBy.isEmpty_eq_false {expression : Expression} {tokens : List Token}
    (spelled : Expression.SpelledBy expression tokens) : expression.isEmpty = false := by
  cases spelled <;> rfl

theorem Sequence.SpelledBy.isEmpty_eq_false {sequence : Sequence} {tokens : List Token}
    (spelled : Sequence.SpelledBy sequence tokens) : sequence.isEmpty = false := by
  cases spelled <;> rfl

theorem Factor.SpelledBy.isEmpty_eq_false {factor : Factor} {tokens : List Token}
    (spelled : Factor.SpelledBy factor tokens) : factor.isEmpty = false := by
  cases spelled <;> rfl

mutual

theorem Term.SpelledBy.isFilled {term : Term} {tokens : List Token}
    (spelled : Term.SpelledBy term tokens) : term.isFilled = true := by
  match spelled with
  | .mk _ inner => exact inner.isFilled

theorem Simple.SpelledBy.isFilled {simple : Simple} {tokens : List Token}
    (spelled : Simple.SpelledBy simple tokens) : simple.isFilled = true := by
  match spelled with
  | .bare _ | .compare _ _ _ => rfl
  | .compareEach _ _ group => exact group.isFilled
  | .group group => exact group.isFilled

theorem Expression.EnclosedBy.isFilled {expression : List (List (List Term))} {tokens : List Token}
    (enclosed : Expression.EnclosedBy expression tokens) :
    Expression.isFilled expression = true := by
  match enclosed with
  | .parentheses _ inner _ =>
    simp [Expression.isFilled, inner.isEmpty_eq_false, inner.areFilled]

theorem Expression.SpelledBy.areFilled {expression : List (List (List Term))} {tokens : List Token}
    (spelled : Expression.SpelledBy expression tokens) :
    Expression.areFilled expression = true := by
  match spelled with
  | .last head => simp [Expression.areFilled, head.isEmpty_eq_false, head.areFilled]
  | .cons head _ tail =>
    simp [Expression.areFilled, head.isEmpty_eq_false, head.areFilled, tail.areFilled]

theorem Sequence.SpelledBy.areFilled {sequence : List (List Term)} {tokens : List Token}
    (spelled : Sequence.SpelledBy sequence tokens) : Sequence.areFilled sequence = true := by
  match spelled with
  | .last head => simp [Sequence.areFilled, head.isEmpty_eq_false, head.areFilled]
  | .cons head tail =>
    simp [Sequence.areFilled, head.isEmpty_eq_false, head.areFilled, tail.areFilled]

theorem Factor.SpelledBy.areFilled {factor : List Term} {tokens : List Token}
    (spelled : Factor.SpelledBy factor tokens) : Factor.areFilled factor = true := by
  match spelled with
  | .last head => simp [Factor.areFilled, head.isFilled]
  | .cons head _ tail => simp [Factor.areFilled, head.isFilled, tail.areFilled]

end

/-- A spelled expression has no empty list. -/
theorem Expression.SpelledBy.isFilled {expression : Expression} {tokens : List Token}
    (spelled : Expression.SpelledBy expression tokens) : expression.isFilled = true := by
  simp [Expression.isFilled, spelled.isEmpty_eq_false, spelled.areFilled]

end FilterQuery
