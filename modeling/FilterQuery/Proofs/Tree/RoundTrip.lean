import FilterQuery.Proofs.Token.Names
import FilterQuery.Proofs.Tree.Reprinting

/-!
# Plain filters

A plain filter is made of paths of names, whole numbers, strings without escapes, and groups. Every
plain tree in which nothing is missing is spelled by words, and no two parts of its members fuse. So
it is read back from its written form.
-/

namespace FilterQuery

section Clauses

theorem InTurn.append {reads : Bool → Token → Prop} {front rest : List Token} {last : Token}
    {after : Bool} (before : InTurn reads after (front ++ [last]))
    (behind : InTurn reads (last.kind == .comparator) rest) :
    InTurn reads after (front ++ last :: rest) := by
  induction front generalizing after with
  | nil => exact ⟨before.1, behind⟩
  | cons token front inductionHypothesis => exact ⟨before.1, inductionHypothesis before.2⟩

/-- Words that can be written as a part of a filter: no minus sign is among them, the last one is no
comparator, and not all of them are blank. -/
structure IsClause (after : Bool) (tokens : List Token) : Prop where
  words : InTurn Token.IsWord after tokens
  noMinus : ∀ token ∈ tokens, token.kind ≠ .minus
  ends : ∃ front last, tokens = front ++ [last] ∧ last.kind ≠ .comparator
  visible : ∃ token ∈ tokens, ∃ c ∈ token.text.toList, Text.isSpace c = false

namespace IsClause

variable {after : Bool} {token : Token} {tokens more : List Token}

theorem single (isWord : token.IsWord after) (kind : token.kind ∉ [.minus, .comparator])
    (visible : ∃ c ∈ token.text.toList, Text.isSpace c = false) : IsClause after [token] where
  words := ⟨isWord, trivial⟩
  noMinus := by
    refine List.forall_mem_singleton.mpr fun isMinus => kind ?_
    simp [isMinus]
  ends := ⟨[], token, rfl, fun isComparator => kind (by simp [isComparator])⟩
  visible := ⟨token, List.mem_singleton_self token, visible⟩

theorem append (first : IsClause after tokens) (second : IsClause false more) :
    IsClause after (tokens ++ more) where
  words := by
    obtain ⟨front, last, rfl, noComparator⟩ := first.ends
    rw [List.append_assoc, List.singleton_append]
    refine first.words.append ?_
    have flag : (last.kind == .comparator) = false := by simpa using noComparator
    rw [flag]
    exact second.words
  noMinus := List.forall_mem_append.mpr ⟨first.noMinus, second.noMinus⟩
  ends := by
    obtain ⟨front, last, rfl, noComparator⟩ := second.ends
    exact ⟨tokens ++ front, last, by simp, noComparator⟩
  visible := by
    obtain ⟨token, listed, visible⟩ := first.visible
    exact ⟨token, List.mem_append_left more listed, visible⟩

/-- A word before a clause, which may be the comparator that a sign needs. -/
theorem cons (isWord : token.IsWord after) (noMinus : token.kind ≠ .minus)
    (rest : IsClause (token.kind == .comparator) tokens) : IsClause after (token :: tokens) where
  words := ⟨isWord, rest.words⟩
  noMinus := List.forall_mem_cons.mpr ⟨noMinus, rest.noMinus⟩
  ends := by
    obtain ⟨front, last, rfl, noComparator⟩ := rest.ends
    exact ⟨token :: front, last, rfl, noComparator⟩
  visible := by
    obtain ⟨token, listed, visible⟩ := rest.visible
    exact ⟨token, List.mem_cons_of_mem _ listed, visible⟩

end IsClause

/-- A token of a kind that has only a few. -/
theorem Token.isWord_of_spelling {kind : TokenKind} {text : String} (listed : text ∈ kind.spellings)
    (position : Nat) (after : Bool) : Token.IsWord after ⟨kind, text, position⟩ :=
  isWord_of_mem_spellings listed

end Clauses

section Members

/-- A literal that is a name. -/
structure Literal.IsName (literal : Literal) : Prop where
  kind : literal.kind = .text
  name : isName literal.text = true
  noBoolean : literal.text ∉ ["true", "false"]

/-- A path of names that does not start with a keyword. -/
structure Member.IsPath (member : Member) : Prop where
  names : ∀ part ∈ member.parts, part.IsName
  noKeyword : member.head.text ∉ ["AND", "OR", "NOT"]

instance (literal : Literal) : Decidable literal.IsName :=
  decidable_of_iff
    (literal.kind = .text ∧ isName literal.text = true ∧ literal.text ∉ ["true", "false"])
    ⟨fun ⟨kind, name, noBoolean⟩ => ⟨kind, name, noBoolean⟩,
      fun ⟨kind, name, noBoolean⟩ => ⟨kind, name, noBoolean⟩⟩

instance (member : Member) : Decidable member.IsPath :=
  decidable_of_iff
    ((∀ part ∈ member.parts, part.IsName) ∧ member.head.text ∉ ["AND", "OR", "NOT"])
    ⟨fun ⟨names, noKeyword⟩ => ⟨names, noKeyword⟩, fun ⟨names, noKeyword⟩ => ⟨names, noKeyword⟩⟩

/-- A member that is a whole number, with one of the given signs. -/
def Member.IsNumber (signs : List (List Char)) (member : Member) : Prop :=
  member.fields = [] ∧ member.head.kind = .integer ∧ ∃ sign ∈ signs, ∃ digits, digits ≠ [] ∧
    (∀ c ∈ digits, c.isDigit = true) ∧ member.head.text.toList = sign ++ digits

/-- A member that is a string without escapes. -/
def Member.IsString (member : Member) : Prop :=
  member.fields = [] ∧ member.head.kind = .string ∧ ∃ content : List Char,
    (∀ c ∈ content, isPlain c = true) ∧ member.head.text.toList = '"' :: (content ++ ['"'])

theorem Literal.IsName.visible {literal : Literal} (isName : literal.IsName) :
    ∃ c ∈ literal.text.toList, Text.isSpace c = false := by
  have name := isName.name
  unfold FilterQuery.isName at name
  split at name
  · cases name
  · next first rest characters =>
    have start := ((Bool.and_eq_true _ _).mp name).1
    exact ⟨first, by simp [characters],
      not_isSpace_of_isNamePart (isNamePart_of_isNameStart start)⟩

/-- A name that is no keyword is spelled by a text. -/
theorem Literal.IsName.spelledBy {literal : Literal} (isName : literal.IsName)
    (noKeyword : literal.text ∉ ["AND", "OR", "NOT"]) :
    literal.SpelledBy ⟨.text, literal.text, literal.position⟩ ∧
      ∀ after, Token.IsWord after ⟨.text, literal.text, literal.position⟩ := by
  have unreserved : literal.text ∉ reservedWords :=
    List.not_mem_append noKeyword isName.noBoolean
  exact ⟨⟨by simp [isName.kind, valueClasses], rfl, rfl⟩, isWord_of_isName isName.name unreserved⟩

/-- A name is spelled by a word, be it a keyword. -/
theorem Literal.IsName.exists_token {literal : Literal} (isName : literal.IsName) :
    ∃ token, literal.NamedBy token ∧ token.kind ∈ [.text, .and, .or, .not] ∧
      ∀ after, token.IsWord after := by
  by_cases keyword : literal.text ∈ ["AND", "OR", "NOT"]
  · have spelling : ∃ kind ∈ [TokenKind.and, .or, .not], literal.text ∈ kind.spellings := by
      simpa [TokenKind.spellings] using keyword
    obtain ⟨kind, isKeyword, listed⟩ := spelling
    have named := @Literal.NamedBy.keyword ⟨kind, literal.text, literal.position⟩ isKeyword
    rw [← isName.kind] at named
    exact ⟨_, named, List.mem_cons_of_mem _ isKeyword, Token.isWord_of_spelling listed _⟩
  · obtain ⟨spelled, isWord⟩ := isName.spelledBy keyword
    exact ⟨_, .value spelled, List.mem_cons_self, isWord⟩

/-- A path of names is spelled by a clause. -/
theorem Member.IsPath.exists_spelling {member : Member} (isPath : member.IsPath) :
    ∃ tokens, member.SpelledBy tokens ∧ ∀ after, IsClause after tokens := by
  obtain ⟨head, fields⟩ := member
  obtain ⟨names, noKeyword⟩ := isPath
  induction fields using List.reverseRecOn with
  | nil =>
    have isName := names head List.mem_cons_self
    obtain ⟨spelled, isWord⟩ := isName.spelledBy noKeyword
    exact ⟨[_], .head spelled, fun after => .single (isWord after) (by simp) isName.visible⟩
  | append_singleton fields field inductionHypothesis =>
    obtain ⟨tokens, spelled, clause⟩ := inductionHypothesis
      (fun part listed => names part (List.mem_append_left [field] listed)) noKeyword
    have isName := names field (by simp [Member.parts])
    obtain ⟨token, named, kind, isWord⟩ := isName.exists_token
    have dotted : Member.SpelledBy (Member.extend ⟨head, fields⟩ field)
        (tokens ++ [⟨.dot, ".", 0⟩, token]) := .field spelled rfl named
    refine ⟨_, dotted, fun after => (clause after).append (.cons ?_ (by simp) ?_)⟩
    · exact Token.isWord_of_spelling (List.mem_singleton_self _) 0 false
    · refine .single (isWord false) ?_ (named.text ▸ isName.visible)
      have kinds : ∀ kind ∈ [TokenKind.text, .and, .or, .not],
          kind ∉ [TokenKind.minus, .comparator] := by decide
      exact kinds _ kind

/-- A whole number is spelled by a clause where its sign may stand. -/
theorem Member.IsNumber.exists_spelling {member : Member} {signs : List (List Char)} {after : Bool}
    (isNumber : member.IsNumber signs)
    (signed : ∀ sign ∈ signs, sign = [] ∨ sign = ['-'] ∧ after = true) :
    ∃ tokens, member.SpelledBy tokens ∧ IsClause after tokens := by
  obtain ⟨head, fields⟩ := member
  obtain ⟨rfl, kind, sign, listed, digits, nonempty, areDigits, text⟩ := isNumber
  have isWord := isWord_integer (signed sign listed) nonempty areDigits
  rw [← text] at isWord
  have spelled : head.SpelledBy ⟨.integer, head.text, head.position⟩ :=
    ⟨by simp [show head.kind = _ from kind, valueClasses], rfl, rfl⟩
  refine ⟨[_], .head spelled, .single isWord (by simp) ?_⟩
  obtain ⟨c, rest, rfl⟩ := List.exists_cons_of_ne_nil nonempty
  have part : isNamePart c = true := by
    simp [isNamePart, Char.isAlphanum, areDigits c List.mem_cons_self]
  exact ⟨c, by simp [show head.text.toList = _ from text], not_isSpace_of_isNamePart part⟩

/-- A string without escapes is spelled by a clause. -/
theorem Member.IsString.exists_spelling {member : Member} (isString : member.IsString)
    (after : Bool) : ∃ tokens, member.SpelledBy tokens ∧ IsClause after tokens := by
  obtain ⟨head, fields⟩ := member
  obtain ⟨rfl, kind, content, plain, text⟩ := isString
  have isWord := isWord_string plain after
  rw [← text] at isWord
  have spelled : head.SpelledBy ⟨.string, head.text, head.position⟩ :=
    ⟨by simp [show head.kind = _ from kind, valueClasses], rfl, rfl⟩
  refine ⟨[_], .head spelled, .single isWord (by simp) ⟨'"', ?_, by decide⟩⟩
  simp [show head.text.toList = _ from text]

end Members

section Trees

/-- The signs of comparisons. -/
def comparisonSigns : List String := ["<=", ">=", "!=", "<", ">", "=", ":"]

/-- What a field is compared with in a plain filter. -/
inductive Member.IsPlainArgument (member : Member) : Prop where
  | path : member.IsPath → IsPlainArgument member
  | number : member.IsNumber [[], ['-']] → IsPlainArgument member
  | string : member.IsString → IsPlainArgument member

/-- A condition of a plain filter, other than a group. The values of a group that a field is
compared with are conditions of their own. -/
inductive Simple.IsPlain : Simple → Prop where
  | path {value : Member} : value.IsPath → IsPlain (.bare value)
  | number {value : Member} : value.IsNumber [[]] → IsPlain (.bare value)
  | compare {field argument : Member} {sign : String} : field.IsPath → sign ∈ comparisonSigns →
      argument.IsPlainArgument → IsPlain (.compare field sign (some argument))
  | compareEach {field : Member} {sign : String} {values : List (List (List Term))} :
      field.IsPath → sign ∈ comparisonSigns → IsPlain (.compareEach field sign values)

theorem Member.IsPlainArgument.exists_spelling {member : Member} (plain : member.IsPlainArgument) :
    ∃ tokens, member.SpelledBy tokens ∧ IsClause true tokens := by
  cases plain with
  | path isPath =>
    obtain ⟨tokens, spelled, clause⟩ := isPath.exists_spelling
    exact ⟨tokens, spelled, clause true⟩
  | number isNumber => exact isNumber.exists_spelling (by simp)
  | string isString => exact isString.exists_spelling true

/-- A comparison is a clause: its argument stands behind the comparator. -/
theorem IsClause.compared {left right : List Token} {sign : String} (known : sign ∈ comparisonSigns)
    (field : IsClause false left) (argument : IsClause true right) :
    IsClause false (left ++ ⟨.comparator, sign, 0⟩ :: right) := by
  have isWord := @Token.isWord_of_spelling .comparator sign known 0
  exact field.append (.cons (isWord false) (by simp) argument)

/-- A clause in parentheses is a clause, also behind a comparator. -/
theorem IsClause.parentheses {tokens : List Token} (inner : IsClause false tokens) (after : Bool) :
    IsClause after (⟨.leftParen, "(", 0⟩ :: (tokens ++ [⟨.rightParen, ")", 0⟩])) := by
  have opening := @Token.isWord_of_spelling .leftParen "(" (List.mem_singleton_self _) 0 after
  have closing := @Token.isWord_of_spelling .rightParen ")" (List.mem_singleton_self _) 0 false
  refine .cons opening (by simp) (inner.append (.single closing (by simp) ?_))
  exact ⟨')', by decide, by decide⟩

/-- Two clauses with a separator between them are a clause. -/
theorem IsClause.separated {kind : TokenKind} {spelling : String} {left right : List Token}
    (only : kind.spellings = [spelling]) (other : kind ∉ [.minus, .comparator])
    (first : IsClause false left) (second : IsClause false right) :
    IsClause false (left ++ ⟨kind, spelling, 0⟩ :: right) := by
  have isWord := @Token.isWord_of_spelling kind spelling (by simp [only]) 0 false
  have flag : (kind == .comparator) = false := by
    simp only [List.mem_cons, List.not_mem_nil, or_false, not_or] at other
    simpa using other.2
  refine first.append (.cons isWord ?_ (flag ▸ second))
  exact fun isMinus => other (by simp [show kind = _ from isMinus])

mutual

theorem Term.exists_spelling (governing : Option String) (term : Term)
    (filled : term.isFilled = true)
    (plain : ∀ restriction ∈ term.restrictions governing, restriction.condition.IsPlain) :
    ∃ tokens, Term.SpelledBy term tokens ∧ IsClause false tokens := by
  match term with
  | .mk false simple =>
    obtain ⟨tokens, spelled, clause⟩ := simple.exists_spelling governing filled plain
    exact ⟨tokens, .mk .plain spelled, clause⟩
  | .mk true simple =>
    obtain ⟨tokens, spelled, clause⟩ := simple.exists_spelling governing filled plain
    have isWord := @Token.isWord_of_spelling .not "NOT" (List.mem_singleton_self _) 0 false
    have negation : NegatedBy true [⟨.not, "NOT", 0⟩] := .negated List.mem_cons_self
    exact ⟨_, .mk negation spelled, .cons isWord (by simp) clause⟩

theorem Simple.exists_spelling (governing : Option String) (simple : Simple)
    (filled : simple.isFilled = true)
    (plain : ∀ restriction ∈ simple.restrictions governing, restriction.condition.IsPlain) :
    ∃ tokens, Simple.SpelledBy simple tokens ∧ IsClause false tokens := by
  match simple with
  | .missing => cases plain _ List.mem_cons_self
  | .bare value =>
    cases plain _ List.mem_cons_self with
    | path isPath =>
      obtain ⟨tokens, spelled, clause⟩ := isPath.exists_spelling
      exact ⟨tokens, .bare spelled, clause false⟩
    | number isNumber =>
      obtain ⟨tokens, spelled, clause⟩ := isNumber.exists_spelling (by simp)
      exact ⟨tokens, .bare spelled, clause⟩
  | .compare field sign none => cases plain _ List.mem_cons_self
  | .compare field sign (some argument) =>
    cases plain _ List.mem_cons_self with
    | compare isPath known isPlain =>
      obtain ⟨left, spelledLeft, leftClause⟩ := isPath.exists_spelling
      obtain ⟨right, spelledRight, rightClause⟩ := isPlain.exists_spelling
      have spelled := @Simple.SpelledBy.compare field argument left right ⟨.comparator, sign, 0⟩
        spelledLeft rfl spelledRight
      exact ⟨_, spelled, (leftClause false).compared known rightClause⟩
  | .compareEach field sign values =>
    obtain ⟨plainField, plainValues⟩ := List.forall_mem_cons.mp plain
    obtain ⟨nonempty, filledValues⟩ := (Bool.and_eq_true _ _).mp filled
    cases plainField with
    | compareEach isPath known =>
      obtain ⟨left, spelledLeft, leftClause⟩ := isPath.exists_spelling
      obtain ⟨inner, spelledInner, innerClause⟩ := Expression.exists_spelling (some field.text)
        values (by simpa using nonempty) filledValues plainValues
      have enclosed := @Expression.EnclosedBy.parentheses values ⟨.leftParen, "(", 0⟩
        ⟨.rightParen, ")", 0⟩ inner rfl spelledInner rfl
      have spelled := @Simple.SpelledBy.compareEach field values left _ ⟨.comparator, sign, 0⟩
        spelledLeft rfl enclosed
      exact ⟨_, spelled, (leftClause false).compared known (innerClause.parentheses true)⟩
  | .group expression =>
    obtain ⟨nonempty, filledInner⟩ := (Bool.and_eq_true _ _).mp filled
    obtain ⟨inner, spelledInner, innerClause⟩ := Expression.exists_spelling governing
      expression (by simpa using nonempty) filledInner plain
    have enclosed := @Expression.EnclosedBy.parentheses expression ⟨.leftParen, "(", 0⟩
      ⟨.rightParen, ")", 0⟩ inner rfl spelledInner rfl
    exact ⟨_, .group enclosed, innerClause.parentheses false⟩

theorem Expression.exists_spelling (governing : Option String)
    (expression : List (List (List Term))) (nonempty : expression ≠ [])
    (filled : Expression.areFilled expression = true)
    (plain : ∀ restriction ∈ Expression.restrictions governing expression,
      restriction.condition.IsPlain) :
    ∃ tokens, Expression.SpelledBy expression tokens ∧ IsClause false tokens := by
  match expression with
  | [] => exact absurd rfl nonempty
  | sequence :: rest =>
    simp only [Expression.areFilled, Bool.and_eq_true] at filled
    obtain ⟨⟨nonemptyHead, filledHead⟩, filledTail⟩ := filled
    obtain ⟨plainHead, plainTail⟩ := List.forall_mem_append.mp plain
    obtain ⟨first, spelledHead, clause⟩ := Sequence.exists_spelling governing sequence
      (by simpa using nonemptyHead) filledHead plainHead
    by_cases last : rest = []
    · subst last
      exact ⟨first, .last spelledHead, clause⟩
    · obtain ⟨others, spelledTail, clauseTail⟩ :=
        Expression.exists_spelling governing rest last filledTail plainTail
      have spelled := @Expression.SpelledBy.cons sequence rest first others ⟨.and, "AND", 0⟩
        spelledHead rfl spelledTail
      exact ⟨_, spelled, clause.separated rfl (by simp) clauseTail⟩

theorem Sequence.exists_spelling (governing : Option String) (sequence : List (List Term))
    (nonempty : sequence ≠ []) (filled : Sequence.areFilled sequence = true)
    (plain : ∀ restriction ∈ Sequence.restrictions governing sequence,
      restriction.condition.IsPlain) :
    ∃ tokens, Sequence.SpelledBy sequence tokens ∧ IsClause false tokens := by
  match sequence with
  | [] => exact absurd rfl nonempty
  | factor :: rest =>
    simp only [Sequence.areFilled, Bool.and_eq_true] at filled
    obtain ⟨⟨nonemptyHead, filledHead⟩, filledTail⟩ := filled
    obtain ⟨plainHead, plainTail⟩ := List.forall_mem_append.mp plain
    obtain ⟨first, spelledHead, clause⟩ := Factor.exists_spelling governing factor
      (by simpa using nonemptyHead) filledHead plainHead
    by_cases last : rest = []
    · subst last
      exact ⟨first, .last spelledHead, clause⟩
    · obtain ⟨others, spelledTail, clauseTail⟩ :=
        Sequence.exists_spelling governing rest last filledTail plainTail
      exact ⟨_, .cons spelledHead spelledTail, clause.append clauseTail⟩

theorem Factor.exists_spelling (governing : Option String) (factor : List Term)
    (nonempty : factor ≠ []) (filled : Factor.areFilled factor = true)
    (plain : ∀ restriction ∈ Factor.restrictions governing factor,
      restriction.condition.IsPlain) :
    ∃ tokens, Factor.SpelledBy factor tokens ∧ IsClause false tokens := by
  match factor with
  | [] => exact absurd rfl nonempty
  | term :: rest =>
    simp only [Factor.areFilled, Bool.and_eq_true] at filled
    obtain ⟨filledHead, filledTail⟩ := filled
    obtain ⟨plainHead, plainTail⟩ := List.forall_mem_append.mp plain
    obtain ⟨first, spelledHead, clause⟩ := term.exists_spelling governing filledHead plainHead
    by_cases last : rest = []
    · subst last
      exact ⟨first, .last spelledHead, clause⟩
    · obtain ⟨others, spelledTail, clauseTail⟩ :=
        Factor.exists_spelling governing rest last filledTail plainTail
      have spelled := @Factor.SpelledBy.cons term rest first others ⟨.or, "OR", 0⟩
        spelledHead rfl spelledTail
      exact ⟨_, spelled, clause.separated rfl (by simp) clauseTail⟩

end

/-- Names do not fuse. -/
theorem Member.IsPath.isApart {member : Member} (isPath : member.IsPath) : member.IsApart := by
  refine List.Pairwise.isChain (List.pairwise_of_forall_mem_list fun first listed second _ => ?_)
  have kind := (isPath.names first listed).kind
  simp [Literal.Fuses, kind]

theorem Member.isApart_of_single {member : Member} (single : member.fields = []) :
    member.IsApart := by
  simp [IsApart, parts, single]

theorem Member.IsPlainArgument.isApart {member : Member} (plain : member.IsPlainArgument) :
    member.IsApart := by
  cases plain with
  | path isPath => exact isPath.isApart
  | number isNumber => exact isApart_of_single isNumber.1
  | string isString => exact isApart_of_single isString.1

/-- No two parts of the members of a plain condition fuse. -/
theorem Restriction.isApart_of_isPlain {restriction : Restriction}
    (plain : restriction.condition.IsPlain) :
    ∀ member ∈ restriction.members, member.IsApart := by
  obtain ⟨governing, condition⟩ := restriction
  cases plain with
  | path isPath => exact List.forall_mem_singleton.mpr isPath.isApart
  | number isNumber => exact List.forall_mem_singleton.mpr (Member.isApart_of_single isNumber.1)
  | compare isPath _ isPlain =>
    exact List.forall_mem_cons.mpr
      ⟨isPath.isApart, List.forall_mem_singleton.mpr isPlain.isApart⟩
  | compareEach isPath _ => exact List.forall_mem_singleton.mpr isPath.isApart

/-- Writing a tree and reading it gives the tree back, but for positions: every tree with no empty
list at any level whose conditions are plain has a written form, and the text is read to that
tree. -/
theorem parse_render_of_plain (expression : Expression) (filled : expression.isFilled = true)
    (plain : ∀ restriction ∈ Expression.restrictions none expression,
      restriction.condition.IsPlain) :
    ∃ printed again, expression.render? = some printed ∧ parse printed = .ok again ∧
      again.unplaced = expression.unplaced := by
  obtain ⟨nonempty, filledInside⟩ := (Bool.and_eq_true _ _).mp filled
  obtain ⟨tokens, spelled, clause⟩ := Expression.exists_spelling none expression
    (by simpa using nonempty) filledInside plain
  obtain ⟨printed, rendered, readBack⟩ :=
    spelled.exists_parse_render_iff clause.words clause.noMinus clause.visible
  have apart : ∀ member ∈ expression.members, member.IsApart := by
    intro member listed
    obtain ⟨restriction, restricts, names⟩ := List.mem_flatMap.mp listed
    exact Restriction.isApart_of_isPlain (plain restriction restricts) member names
  obtain ⟨again, parsed, same⟩ := readBack.mpr apart
  exact ⟨printed, again, rendered, parsed, same⟩

/-- A negated group with a keyword behind a dot and a signed number, a group of values, and a
string. -/
theorem parse_render_of_plain_nested :
    ∃ expression : Expression, expression.isFilled = true ∧
      (∀ restriction ∈ Expression.restrictions none expression,
        restriction.condition.IsPlain) ∧
      expression.render? = some "NOT (a.AND >= -12 b_1) OR c : (x OR 7) AND d = \"e f\"" ∧
      ∃ again, parse "NOT (a.AND >= -12 b_1) OR c : (x OR 7) AND d = \"e f\"" = .ok again ∧
        again.unplaced = expression.unplaced := by
  let expression : Expression := [
    [[.mk true (.group [[
        [.mk false (.compare ⟨⟨.text, "a", 0⟩, [⟨.text, "AND", 0⟩]⟩ ">="
          (some ⟨⟨.integer, "-12", 0⟩, []⟩))],
        [.mk false (.bare ⟨⟨.text, "b_1", 0⟩, []⟩)]]]),
      .mk false (.compareEach ⟨⟨.text, "c", 0⟩, []⟩ ":" [[[
        .mk false (.bare ⟨⟨.text, "x", 0⟩, []⟩), .mk false (.bare ⟨⟨.integer, "7", 0⟩, []⟩)]]])]],
    [[.mk false (.compare ⟨⟨.text, "d", 0⟩, []⟩ "=" (some ⟨⟨.string, "\"e f\"", 0⟩, []⟩))]]]
  have plain : ∀ restriction ∈ Expression.restrictions none expression,
      restriction.condition.IsPlain := by
    have signed : Member.IsNumber [[], ['-']] ⟨⟨.integer, "-12", 0⟩, []⟩ :=
      ⟨rfl, rfl, ['-'], by simp, ['1', '2'], by simp, by simp, rfl⟩
    have unsigned : Member.IsNumber [[]] ⟨⟨.integer, "7", 0⟩, []⟩ :=
      ⟨rfl, rfl, [], by simp, ['7'], by simp, by simp, rfl⟩
    have quoted : Member.IsString ⟨⟨.string, "\"e f\"", 0⟩, []⟩ :=
      ⟨rfl, rfl, ['e', ' ', 'f'], List.all_iff_forall_prop.mp (by decide), rfl⟩
    refine List.forall_mem_cons.mpr ⟨.compare (by decide) (by decide) (.number signed), ?_⟩
    refine List.forall_mem_cons.mpr ⟨.path (by decide), ?_⟩
    refine List.forall_mem_cons.mpr ⟨.compareEach (by decide) (by decide), ?_⟩
    refine List.forall_mem_cons.mpr ⟨.path (by decide), ?_⟩
    refine List.forall_mem_cons.mpr ⟨.number unsigned, ?_⟩
    exact List.forall_mem_singleton.mpr (.compare (by decide) (by decide) (.string quoted))
  obtain ⟨printed, again, rendered, parsed, same⟩ := parse_render_of_plain expression rfl plain
  obtain rfl : "NOT (a.AND >= -12 b_1) OR c : (x OR 7) AND d = \"e f\"" = printed :=
    Option.some.inj rendered
  exact ⟨expression, rfl, plain, rendered, again, parsed, same⟩

end Trees

end FilterQuery
