import FilterQuery.Proofs.Token.Layout
import FilterQuery.Proofs.Tree.Restrictions
import FilterQuery.Tree.Render
import Mathlib.Data.List.Chain

/-!
# The written form as a layout of tokens

The written form of a tree is the layout of tokens that spell it, with `NOT` for every negation. A
dot fuses two of these tokens exactly if they are neighbouring parts of one member: everything else
that is written has blanks or parentheses around it.
-/

namespace FilterQuery

section Fusion

/-- Two parts of a member that cannot be told apart when only a dot stands between them: a whole
number and a number, or a date that stops at its seconds and digits. -/
def Literal.Fuses (first second : Literal) : Prop :=
  (first.kind = .integer ∧ second.kind ∈ [.duration, .float, .integer]) ∨
    (first.kind = .datetime ∧ IsSeconds first.text.toList ∧
      startsWithDigit second.text.toList = true)

/-- A member of which no two neighbouring parts fuse. -/
def Member.IsApart (member : Member) : Prop :=
  member.parts.IsChain fun first second => ¬ first.Fuses second

theorem Literal.NamedBy.text {literal : Literal} {token : Token} (named : literal.NamedBy token) :
    literal.text = token.text := by
  cases named with
  | value spelled => exact spelled.text
  | keyword _ => rfl

/-- Numbers and dates are spelled by tokens of their own kinds. -/
theorem Literal.NamedBy.kind_iff {literal : Literal} {token : Token}
    (named : literal.NamedBy token) :
    (token.kind = .integer ↔ literal.kind = .integer) ∧
      (token.kind = .datetime ↔ literal.kind = .datetime) ∧
      (token.kind ∈ numberKinds ↔ literal.kind ∈ [.duration, .float, .integer]) := by
  have classes : ∀ pair ∈ valueClasses,
      ((pair.1 = TokenKind.integer) ↔ pair.2 = .integer) ∧
      ((pair.1 = TokenKind.datetime) ↔ pair.2 = .datetime) ∧
      (pair.1 ∈ numberKinds ↔ pair.2 ∈ [LiteralKind.duration, .float, .integer]) := by decide
  have keywords : ∀ kind ∈ [TokenKind.and, .or, .not],
      kind ≠ .integer ∧ kind ≠ .datetime ∧ kind ∉ numberKinds := by decide
  cases named with
  | value spelled => exact classes _ spelled.kind
  | keyword isKeyword =>
    obtain ⟨notInteger, notDate, notNumber⟩ := keywords _ isKeyword
    simp [notInteger, notDate, notNumber]

/-- Tokens fuse exactly if the literals that they spell do. -/
theorem Literal.NamedBy.fuses_iff {first second : Literal} {left right : Token}
    (firstNamed : first.NamedBy left) (secondNamed : second.NamedBy right) :
    left.Fuses right ↔ first.Fuses second := by
  obtain ⟨integer, datetime, -⟩ := firstNamed.kind_iff
  obtain ⟨-, -, number⟩ := secondNamed.kind_iff
  rw [Token.Fuses, Literal.Fuses, integer, datetime, number, firstNamed.text, secondNamed.text]

/-- Whether dots fuse anything is decided by three tokens at a time. -/
theorem unfused_overlap (front : List Token) (first second : Token) (rest : List Token) :
    Unfused (front ++ first :: second :: rest) ↔
      Unfused (front ++ [first, second]) ∧ Unfused (first :: second :: rest) := by
  induction front with
  | nil => simp [Unfused]
  | cons token front inductionHypothesis =>
    match front with
    | [] => simp [Unfused]
    | [next] => simp [Unfused, and_assoc]
    | next :: third :: front => simpa [Unfused, and_assoc] using fun _ => inductionHypothesis

/-- Behind a token that is no dot nothing is fused with what stands before it. -/
theorem unfused_concat {front : List Token} {last next : Token} (noDot : last.kind ≠ .dot) :
    Unfused (front ++ [last, next]) ↔ Unfused (front ++ [last]) := by
  rcases List.eq_nil_or_concat front with rfl | ⟨front, token, rfl⟩
  · simp [Unfused]
  · simpa [Unfused, noDot] using unfused_overlap front token last [next]

/-- Where no dot stands on either side, nothing is fused across. -/
theorem unfused_append {front rest : List Token} {last first : Token} (endsApart : last.kind ≠ .dot)
    (startsApart : first.kind ≠ .dot) :
    Unfused (front ++ last :: first :: rest) ↔
      Unfused (front ++ [last]) ∧ Unfused (first :: rest) := by
  have behind : Unfused (last :: first :: rest) ↔ Unfused (first :: rest) := by
    cases rest with
    | nil => exact Iff.rfl
    | cons second rest => simp [Unfused, startsApart]
  rw [unfused_overlap, unfused_concat endsApart, behind]

end Fusion

section Phrases

/-- Tokens that have blanks around them when they are written among others. -/
structure IsPhrase (tokens : List Token) : Prop where
  starts : ∃ first rest, tokens = first :: rest ∧ first.kind ∉ [.rightParen, .dot]
  ends : ∃ front last, tokens = front ++ [last] ∧ last.kind ∉ [.leftParen, .dot]

/-- Tokens with the text in which they are written, and with the members among which two tokens may
fuse. -/
structure Prints (text : List Char) (members : List Member) (tokens : List Token) : Prop where
  phrase : IsPhrase tokens
  text_eq : text = layout tokens
  apart : Unfused tokens ↔ ∀ member ∈ members, member.IsApart

namespace IsPhrase

variable {tokens more : List Token}

theorem append (phrase : IsPhrase tokens) (further : IsPhrase more) :
    IsPhrase (tokens ++ more) where
  starts := by
    obtain ⟨first, rest, rfl, noJoin⟩ := phrase.starts
    exact ⟨first, rest ++ more, rfl, noJoin⟩
  ends := by
    obtain ⟨front, last, rfl, noJoin⟩ := further.ends
    exact ⟨tokens ++ front, last, by simp, noJoin⟩

theorem layout_append (phrase : IsPhrase tokens) (further : IsPhrase more) :
    layout (tokens ++ more) = layout tokens ++ ' ' :: layout more := by
  obtain ⟨front, last, rfl, endsApart⟩ := phrase.ends
  obtain ⟨first, rest, rfl, startsApart⟩ := further.starts
  have blank : gap last (first :: rest) = [' '] := by
    simp only [List.mem_cons, List.not_mem_nil, or_false, not_or] at endsApart startsApart
    simp [gap, Token.touches, endsApart, startsApart]
  have joined := layout_append_cons front last (first :: rest)
  rw [blank] at joined
  simpa using joined

theorem unfused_append (phrase : IsPhrase tokens) (further : IsPhrase more) :
    Unfused (tokens ++ more) ↔ Unfused tokens ∧ Unfused more := by
  obtain ⟨front, last, rfl, endsApart⟩ := phrase.ends
  obtain ⟨first, rest, rfl, startsApart⟩ := further.starts
  rw [List.append_assoc, List.singleton_append]
  refine FilterQuery.unfused_append (fun isDot => endsApart ?_) (fun isDot => startsApart ?_)
  · simp [isDot]
  · simp [isDot]

end IsPhrase

namespace Prints

variable {text further : List Char} {members others : List Member} {tokens more : List Token}

/-- A blank stands between what is written one after the other. -/
theorem append (first : Prints text members tokens) (second : Prints further others more) :
    Prints (text ++ ' ' :: further) (members ++ others) (tokens ++ more) where
  phrase := first.phrase.append second.phrase
  text_eq := by
    rw [first.phrase.layout_append second.phrase, first.text_eq, second.text_eq]
  apart := by
    rw [first.phrase.unfused_append second.phrase, first.apart, second.apart,
      List.forall_mem_append]

/-- A word of its own fuses with nothing. -/
theorem word {token : Token} (apart : token.kind ∉ [.leftParen, .rightParen, .dot]) :
    Prints token.text.toList [] [token] where
  phrase :=
    ⟨⟨token, [], rfl, fun joins => apart (by simp_all)⟩,
      ⟨[], token, rfl, fun joins => apart (by simp_all)⟩⟩
  text_eq := by simp [layout, gap]
  apart := by simp [Unfused]

/-- Parentheses are written without blanks inside of them. -/
theorem parentheses {opening closing : Token} (isOpening : opening.kind = .leftParen)
    (isClosing : closing.kind = .rightParen) (inner : Prints text members tokens) :
    Prints (opening.text.toList ++ (text ++ closing.text.toList)) members
      (opening :: (tokens ++ [closing])) where
  phrase :=
    ⟨⟨opening, _, rfl, by simp [isOpening]⟩, ⟨opening :: tokens, closing, rfl, by simp [isClosing]⟩⟩
  text_eq := by
    obtain ⟨front, last, rfl, -⟩ := inner.phrase.ends
    have noGap : gap opening (front ++ [last] ++ [closing]) = [] := by
      cases front <;> simp [gap, Token.touches, isOpening]
    have noGapBefore : gap last [closing] = [] := by simp [gap, Token.touches, isClosing]
    have joined := layout_append_cons front last [closing]
    rw [noGapBefore] at joined
    rw [layout, noGap, List.append_assoc front, List.singleton_append, joined, inner.text_eq]
    simp [layout, gap]
  apart := by
    obtain ⟨first, rest, starts, startsApart⟩ := inner.phrase.starts
    obtain ⟨front, last, ends, endsApart⟩ := inner.phrase.ends
    have inside : Unfused (tokens ++ [closing]) ↔ Unfused tokens := by
      rw [ends, List.append_assoc, List.singleton_append, FilterQuery.unfused_append]
      · simp [Unfused]
      · exact fun isDot => endsApart (by simp [isDot])
      · simp [isClosing]
    have outside : Unfused (opening :: (tokens ++ [closing])) ↔ Unfused (tokens ++ [closing]) := by
      have across := @FilterQuery.unfused_append [] (rest ++ [closing]) opening first
        (by simp [isOpening]) fun isDot => startsApart (by simp [isDot])
      simpa [starts, Unfused] using across
    rw [outside, inside, inner.apart]

end Prints

end Phrases

section Members

/-- A token that no minus sign spells and that is written as its kind demands. -/
def Token.IsWritten (token : Token) : Prop :=
  token.kind ≠ .minus ∧ ∀ spelling, token.kind.spellings = [spelling] → token.text = spelling

/-- No parenthesis and no dot spells a literal. -/
theorem Literal.NamedBy.kind_not_mem {literal : Literal} {token : Token}
    (named : literal.NamedBy token) : token.kind ∉ [.leftParen, .rightParen, .dot] := by
  have classes : ∀ pair ∈ valueClasses, pair.1 ∉ [TokenKind.leftParen, .rightParen, .dot] := by
    decide
  have keywords : ∀ kind ∈ [TokenKind.and, .or, .not],
      kind ∉ [TokenKind.leftParen, .rightParen, .dot] := by decide
  cases named with
  | value spelled => exact classes _ spelled.kind
  | keyword isKeyword => exact keywords _ isKeyword

/-- The last token of a member spells its last part. -/
theorem Member.SpelledBy.exists_last {member : Member} {tokens : List Token}
    (spelled : member.SpelledBy tokens) :
    ∃ front last parts part, tokens = front ++ [last] ∧ member.parts = parts ++ [part] ∧
      part.NamedBy last := by
  cases spelled with
  | @head literal token isSpelled => exact ⟨[], token, [], literal, rfl, rfl, .value isSpelled⟩
  | @field member literal tokens dot token _ _ named =>
    exact ⟨tokens ++ [dot], token, member.parts, literal, by simp, rfl, named⟩

theorem Member.text_extend (member : Member) (literal : Literal) :
    (member.extend literal).text = member.text ++ "." ++ literal.text := by
  have parts : (member.extend literal).parts = member.parts ++ [literal] := rfl
  have nonempty : member.parts.map Literal.text ≠ [] := by simp [Member.parts]
  rw [text, text, parts, List.map_append, String.intercalate_append_of_ne_nil nonempty (by simp)]
  simp

/-- The text of a member is the layout of the tokens that spell it. -/
theorem Member.SpelledBy.prints {member : Member} {tokens : List Token}
    (spelled : member.SpelledBy tokens) (written : ∀ token ∈ tokens, token.IsWritten) :
    Prints member.text.toList [member] tokens := by
  induction spelled with
  | @head literal token isSpelled =>
    have named : literal.NamedBy token := .value isSpelled
    have word := Prints.word named.kind_not_mem
    refine ⟨word.phrase, ?_, ?_⟩
    · rw [← word.text_eq, ← named.text]
      simp [text, parts, ofLiteral]
    · simp [Unfused, IsApart, parts, ofLiteral]
  | @field member literal tokens dot token inner isDot named inductionHypothesis =>
    have prints := inductionHypothesis fun token listed => written token (by simp [listed])
    obtain ⟨front, last, parts, part, rfl, partsEq, namedLast⟩ := inner.exists_last
    have lastKind := namedLast.kind_not_mem
    have tokenKind := named.kind_not_mem
    simp only [List.mem_cons, List.not_mem_nil, or_false, not_or] at lastKind tokenKind
    have dotText : dot.text = "." :=
      (written dot (by simp)).2 "." (by rw [isDot]; rfl)
    refine ⟨⟨?_, ?_⟩, ?_, ?_⟩
    · obtain ⟨first, rest, starts, apart⟩ := prints.phrase.starts
      exact ⟨first, rest ++ [dot, token], by rw [starts, List.cons_append], apart⟩
    · exact ⟨front ++ [last, dot], token, by simp, by simp [tokenKind]⟩
    · have joined := layout_append_cons front last [dot, token]
      rw [Member.text_extend, List.append_assoc, List.singleton_append, joined, named.text]
      simp [prints.text_eq, layout, gap, Token.touches, isDot, dotText]
    · have fused : Unfused [last, dot, token] ↔ ¬ part.Fuses literal := by
        simp [Unfused, isDot, namedLast.fuses_iff named]
      have extended : (member.extend literal).parts = parts ++ [part] ++ [literal] := by
        rw [← partsEq]
        rfl
      have before := prints.apart
      rw [List.forall_mem_singleton, IsApart, partsEq] at before
      rw [List.forall_mem_singleton, IsApart, extended, List.append_assoc, List.singleton_append,
        unfused_overlap, unfused_concat lastKind.2.2, fused, before, List.append_assoc,
        List.singleton_append, List.isChain_append_cons_cons]
      simp

end Members

section Trees

/-- A negation that is written is the word for it. -/
theorem NegatedBy.prints {sign : Token} (isSign : sign.kind ∈ [.not, .minus])
    (written : sign.IsWritten) : Prints "NOT".toList [] [sign] := by
  have isNot : sign.kind = .not := by simpa [written.1] using isSign
  have text : sign.text = "NOT" := written.2 "NOT" (by rw [isNot]; rfl)
  rw [← text]
  exact Prints.word (by simp [isNot])

/-- A separator that is written is the word for it. -/
theorem Token.IsWritten.prints {separator : Token} {spelling : String}
    (written : separator.IsWritten) (only : separator.kind.spellings = [spelling])
    (apart : separator.kind ∉ [.leftParen, .rightParen, .dot]) :
    Prints spelling.toList [] [separator] := by
  rw [← written.2 spelling only]
  exact Prints.word apart

mutual

theorem Term.SpelledBy.prints (governing : Option String) {term : Term} {tokens : List Token}
    (spelled : Term.SpelledBy term tokens) (written : ∀ token ∈ tokens, token.IsWritten) :
    ∃ text, term.render? = some text ∧
      Prints text.toList ((term.restrictions governing).flatMap Restriction.members) tokens := by
  match spelled with
  | .mk .plain inner => exact inner.prints governing written
  | .mk (.negated isSign) inner =>
    obtain ⟨writtenSign, writtenInner⟩ := List.forall_mem_cons.mp written
    obtain ⟨text, rendered, prints⟩ := inner.prints governing writtenInner
    refine ⟨"NOT " ++ text, by simp [Term.render?, rendered], ?_⟩
    simpa [Term.restrictions] using (NegatedBy.prints isSign writtenSign).append prints

theorem Simple.SpelledBy.prints (governing : Option String) {simple : Simple} {tokens : List Token}
    (spelled : Simple.SpelledBy simple tokens) (written : ∀ token ∈ tokens, token.IsWritten) :
    ∃ text, simple.render? = some text ∧
      Prints text.toList ((simple.restrictions governing).flatMap Restriction.members) tokens := by
  match spelled with
  | @Simple.SpelledBy.bare value _ spelledValue =>
    exact ⟨value.text, rfl, spelledValue.prints written⟩
  | @Simple.SpelledBy.compare field argument _ _ sign spelledField isSign spelledArgument =>
    obtain ⟨writtenField, writtenSide⟩ := List.forall_mem_append.mp written
    have left := spelledField.prints writtenField
    have middle : Prints sign.text.toList [] [sign] := Prints.word (by simp [isSign])
    have right := spelledArgument.prints (List.forall_mem_cons.mp writtenSide).2
    refine ⟨_, rfl, ?_⟩
    simpa [Simple.restrictions, Restriction.members] using left.append (middle.append right)
  | @Simple.SpelledBy.compareEach field values _ _ sign spelledField isSign enclosed =>
    obtain ⟨writtenField, writtenSide⟩ := List.forall_mem_append.mp written
    have left := spelledField.prints writtenField
    have middle : Prints sign.text.toList [] [sign] := Prints.word (by simp [isSign])
    obtain ⟨parts, rendered, right⟩ :=
      enclosed.prints (some field.text) (List.forall_mem_cons.mp writtenSide).2
    refine ⟨field.text ++ " " ++ sign.text ++ " (" ++ " AND ".intercalate parts ++ ")",
      by simp [Simple.render?, rendered], ?_⟩
    simpa [Simple.restrictions, Restriction.members] using left.append (middle.append right)
  | .group enclosed =>
    obtain ⟨parts, rendered, prints⟩ := enclosed.prints governing written
    exact ⟨"(" ++ " AND ".intercalate parts ++ ")", by simp [Simple.render?, rendered], prints⟩

theorem Expression.EnclosedBy.prints (governing : Option String)
    {expression : List (List (List Term))} {tokens : List Token}
    (enclosed : Expression.EnclosedBy expression tokens)
    (written : ∀ token ∈ tokens, token.IsWritten) :
    ∃ parts, Expression.renderParts? expression = some parts ∧
      Prints ("(" ++ " AND ".intercalate parts ++ ")").toList
        ((Expression.restrictions governing expression).flatMap Restriction.members) tokens := by
  match enclosed with
  | .parentheses isOpening inner isClosing =>
    obtain ⟨writtenOpening, writtenRest⟩ := List.forall_mem_cons.mp written
    obtain ⟨writtenInner, writtenClosing⟩ := List.forall_mem_append.mp writtenRest
    obtain ⟨parts, rendered, -, prints⟩ := inner.prints governing writtenInner
    have opening := writtenOpening.2 "(" (by rw [isOpening]; rfl)
    have closing := (writtenClosing _ (List.mem_singleton_self _)).2 ")" (by rw [isClosing]; rfl)
    refine ⟨parts, rendered, ?_⟩
    have enclosed := prints.parentheses isOpening isClosing
    rw [opening, closing] at enclosed
    simpa using enclosed

theorem Expression.SpelledBy.prints (governing : Option String)
    {expression : List (List (List Term))} {tokens : List Token}
    (spelled : Expression.SpelledBy expression tokens)
    (written : ∀ token ∈ tokens, token.IsWritten) :
    ∃ parts, Expression.renderParts? expression = some parts ∧ parts ≠ [] ∧
      Prints (" AND ".intercalate parts).toList
        ((Expression.restrictions governing expression).flatMap Restriction.members) tokens := by
  match spelled with
  | .last head =>
    obtain ⟨factors, rendered, -, prints⟩ := head.prints governing written
    refine ⟨[" ".intercalate factors], by simp [Expression.renderParts?, rendered], by simp, ?_⟩
    simpa [Expression.restrictions] using prints
  | .cons head isAnd tail =>
    obtain ⟨writtenHead, writtenSide⟩ := List.forall_mem_append.mp written
    obtain ⟨writtenSeparator, writtenTail⟩ := List.forall_mem_cons.mp writtenSide
    obtain ⟨factors, renderedHead, -, first⟩ := head.prints governing writtenHead
    obtain ⟨parts, renderedTail, nonempty, others⟩ := tail.prints governing writtenTail
    have separator : Prints "AND".toList [] [_] :=
      writtenSeparator.prints (by rw [isAnd]; rfl) (by simp [isAnd])
    refine ⟨" ".intercalate factors :: parts,
      by simp [Expression.renderParts?, renderedHead, renderedTail], by simp, ?_⟩
    rw [String.intercalate_cons_of_ne_nil nonempty]
    simpa [Expression.restrictions] using first.append (separator.append others)

theorem Sequence.SpelledBy.prints (governing : Option String) {sequence : List (List Term)}
    {tokens : List Token} (spelled : Sequence.SpelledBy sequence tokens)
    (written : ∀ token ∈ tokens, token.IsWritten) :
    ∃ parts, Sequence.renderParts? sequence = some parts ∧ parts ≠ [] ∧
      Prints (" ".intercalate parts).toList
        ((Sequence.restrictions governing sequence).flatMap Restriction.members) tokens := by
  match spelled with
  | .last head =>
    obtain ⟨terms, rendered, -, prints⟩ := head.prints governing written
    refine ⟨[" OR ".intercalate terms], by simp [Sequence.renderParts?, rendered], by simp, ?_⟩
    simpa [Sequence.restrictions] using prints
  | .cons head tail =>
    obtain ⟨writtenHead, writtenTail⟩ := List.forall_mem_append.mp written
    obtain ⟨terms, renderedHead, -, first⟩ := head.prints governing writtenHead
    obtain ⟨parts, renderedTail, nonempty, others⟩ := tail.prints governing writtenTail
    refine ⟨" OR ".intercalate terms :: parts,
      by simp [Sequence.renderParts?, renderedHead, renderedTail], by simp, ?_⟩
    rw [String.intercalate_cons_of_ne_nil nonempty]
    simpa [Sequence.restrictions] using first.append others

theorem Factor.SpelledBy.prints (governing : Option String) {factor : List Term}
    {tokens : List Token} (spelled : Factor.SpelledBy factor tokens)
    (written : ∀ token ∈ tokens, token.IsWritten) :
    ∃ parts, Factor.renderParts? factor = some parts ∧ parts ≠ [] ∧
      Prints (" OR ".intercalate parts).toList
        ((Factor.restrictions governing factor).flatMap Restriction.members) tokens := by
  match spelled with
  | .last head =>
    obtain ⟨text, rendered, prints⟩ := head.prints governing written
    refine ⟨[text], by simp [Factor.renderParts?, rendered], by simp, ?_⟩
    simpa [Factor.restrictions] using prints
  | .cons head isOr tail =>
    obtain ⟨writtenHead, writtenSide⟩ := List.forall_mem_append.mp written
    obtain ⟨writtenSeparator, writtenTail⟩ := List.forall_mem_cons.mp writtenSide
    obtain ⟨text, renderedHead, first⟩ := head.prints governing writtenHead
    obtain ⟨parts, renderedTail, nonempty, others⟩ := tail.prints governing writtenTail
    have separator : Prints "OR".toList [] [_] :=
      writtenSeparator.prints (by rw [isOr]; rfl) (by simp [isOr])
    refine ⟨text :: parts,
      by simp [Factor.renderParts?, renderedHead, renderedTail], by simp, ?_⟩
    rw [String.intercalate_cons_of_ne_nil nonempty]
    simpa [Factor.restrictions] using first.append (separator.append others)

end

end Trees

end FilterQuery
