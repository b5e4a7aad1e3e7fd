import FilterQuery.Proofs.Token.Layout
import FilterQuery.Proofs.Tree.Restrictions

/-!
# Reading a comparison

A text that is read as a member is read as the field of a comparison when an equality sign and a
word follow it: `parse_equality`.

The equality sign ends every token before it, unless that is a comparison sign or may become one.
A member has no comparison signs.
-/

namespace FilterQuery

open Pattern LexicalClass

section Signs

/-- The characters that comparison signs start with. -/
def signCharacters : List Char := ['<', '>', '!', '=', ':']

/-- No class but that of the comparators starts with a comparison sign. -/
theorem lexeme?_eq_none_of_sign {c : Char} (sign : c ∈ signCharacters) (rest : List Char) :
    ∀ lexicalClass ∈ LexicalClass.table, lexicalClass.kind ≠ .comparator →
      lexicalClass.lexeme? (c :: rest) = none := by
  have characters : ∀ c ∈ signCharacters, c ∉ '-' :: asciiDigits ∧
      ∀ lexicalClass ∈ LexicalClass.table, lexicalClass.kind = .comparator ∨
        lexicalClass.kind ∈ numberKinds ∨ lexicalClass.pattern.refusesFirst c = true :=
    List.all_iff_forall_prop.mp (by decide)
  intro lexicalClass listed noComparator
  obtain ⟨notNumeric, classes⟩ := characters c sign
  rcases classes lexicalClass listed with comparator | isNumber | refuses
  · exact absurd comparator noComparator
  · exact lexeme?_eq_none_of_numberClass listed isNumber notNumeric rest
  · exact lexeme?_eq_none (split?_eq_none_of_refusesFirst refuses rest)

/-- The class of comparators starts with nothing else. -/
theorem comparator_lexeme?_eq_none {c : Char} (noSign : c ∉ signCharacters) (rest : List Char) :
    LexicalClass.lexeme? ⟨.comparator, comparatorPattern, false⟩ (c :: rest) = none := by
  simp only [signCharacters, List.mem_cons, List.not_mem_nil, or_false, not_or] at noSign
  obtain ⟨noLess, noGreater, noMark, noEqual, noColon⟩ := noSign
  apply lexeme?_eq_none
  apply split?_eq_none_of_refusesFirst
  simp [comparatorPattern, word, is, refusesFirst, noLess, noGreater, noMark, noEqual, noColon]

/-- A token that is no comparator is the same before an equality sign. -/
theorem nextToken?_before_equality {after : Bool} {first : Char} {rest lexeme : List Char}
    {kind : TokenKind} (noComparator : kind ≠ .comparator)
    (found : nextToken? after (first :: rest) = some (kind, lexeme)) (more : List Char) :
    nextToken? after (first :: rest ++ '=' :: more) = some (kind, lexeme) := by
  have sign := startsNegation_append (show '='.isDigit = false by decide) after first rest more
  have ends : ∀ lexicalClass ∈ LexicalClass.table, lexicalClass.kind = .string ∨
      lexicalClass.kind = .comparator ∨ lexicalClass.endsAt '=' = true := by decide
  refine nextToken?_eq_some_iff.mpr ?_
  rw [sign]
  rcases nextToken?_eq_some_iff.mp found with
    minus | ⟨unsigned, earlier, chosen, later, order, chosenKind, read, failed⟩
  · exact .inl minus
  · have listed : chosen ∈ LexicalClass.table := by simp [order]
    have noSign : first ∉ signCharacters := by
      intro isSign
      rw [lexeme?_eq_none_of_sign isSign rest chosen listed (chosenKind ▸ noComparator)] at read
      cases read
    have same : ∀ lexicalClass ∈ LexicalClass.table,
        lexicalClass.lexeme? (first :: rest ++ '=' :: more) =
          lexicalClass.lexeme? (first :: rest) := by
      intro lexicalClass member
      rcases ends lexicalClass member with string | comparator | endsHere
      · obtain rfl := eq_string_of_kind lexicalClass member string
        exact string_lexeme?_append listed read ('=' :: more)
      · obtain rfl := eq_comparator_of_kind lexicalClass member comparator
        rw [List.cons_append, comparator_lexeme?_eq_none noSign, comparator_lexeme?_eq_none noSign]
      · exact LexicalClass.lexeme?_append (by decide) endsHere first rest more
    refine .inr ⟨unsigned, earlier, chosen, later, order, chosenKind, ?_, fun other isOther => ?_⟩
    · rw [same chosen listed, read]
    · rw [same other (by simp [order, isOther]), failed other isOther]

theorem nextToken?_equality (after : Bool) (more : List Char) :
    nextToken? after ('=' :: more) = some (.comparator, ['=']) := rfl

end Signs

section Members

/-- The tokens of a member are values, dots and names. -/
theorem Member.SpelledBy.kind_ne_comparator {member : Member} {tokens : List Token}
    (spelled : member.SpelledBy tokens) : ∀ token ∈ tokens, token.kind ≠ .comparator := by
  have values : ∀ pair ∈ valueClasses, pair.1 ≠ .comparator := by decide
  induction spelled with
  | head literal => exact List.forall_mem_singleton.mpr (values _ literal.kind)
  | field _ isDot named inductionHypothesis =>
    refine List.forall_mem_append.mpr ⟨inductionHypothesis, ?_⟩
    refine List.forall_mem_cons.mpr ⟨by simp [isDot], List.forall_mem_singleton.mpr ?_⟩
    cases named with
    | value literal => exact values _ literal.kind
    | keyword isKeyword =>
      intro comparator
      simp [comparator] at isKeyword

/-- The tokens of a filter that is one bare member spell the member. -/
theorem Expression.SpelledBy.member_of_bare {member : Member} {tokens : List Token}
    (spelled : Expression.SpelledBy [[[.mk false (.bare member)]]] tokens) :
    member.SpelledBy tokens := by
  cases spelled with
  | cons _ _ others => cases others
  | last sequence =>
    cases sequence with
    | cons _ others => cases others
    | last factor =>
      cases factor with
      | cons _ _ others => cases others
      | last term =>
        cases term with
        | mk negated simple =>
          cases negated
          cases simple with
          | bare value => exact value

/-- A comparison of a member with a literal is a filter. -/
theorem Member.SpelledBy.comparison {member : Member} {literal : Literal} {left : List Token}
    {sign token : Token} (spelled : member.SpelledBy left) (isSign : sign.kind = .comparator)
    (value : literal.SpelledBy token) :
    Expression.SpelledBy
      [[[.mk false (.compare member sign.text (some (.ofLiteral literal)))]]]
      (left ++ [sign, token]) := by
  have term := Term.SpelledBy.mk .plain (.compare spelled isSign (.head value))
  exact .last (.last (.last term))

end Members

section Texts

variable {field word : String} {kind : TokenKind}

/-- A text without comparison signs, an equality sign and a word are read one after the other. -/
theorem scan_equality (clean : (scan field).strays = [])
    (noComparator : ∀ token ∈ (scan field).tokens, token.kind ≠ .comparator)
    (isWord : IsWord true kind word.toList) :
    ∃ start position, scan (field ++ "=" ++ word) =
      (scan field).append ⟨[⟨.comparator, "=", start⟩, ⟨kind, word, position⟩], []⟩ := by
  have nonempty : word.toList ≠ [] := by
    obtain ⟨first, rest, isCons⟩ := isWord.exists_cons
    simp [isCons]
  have characters : (field ++ "=" ++ word).toList = field.toList ++ '=' :: word.toList := by simp
  obtain ⟨after, begins⟩ := @scanFrom_append_of_stable ('=' :: word.toList) (· ≠ .comparator)
    (fun noComparator found => nextToken?_before_equality noComparator found word.toList)
    0 0 false field.toList (Nat.zero_le _) clean noComparator
  have signed (position : Nat) : scanFrom position after 0 ('=' :: word.toList) =
      Scan.append ⟨[⟨.comparator, "=", position⟩], []⟩
        (scanFrom (position + 1) true 0 word.toList) :=
    @scanFrom_word position after .comparator ['='] word.toList (List.cons_ne_nil _ _)
      (nextToken?_equality after word.toList)
  have ends (position : Nat) : scanFrom position true 0 word.toList =
      ⟨[⟨kind, word, position⟩], []⟩ := by
    have alone : nextToken? true (word.toList ++ []) = some (kind, word.toList) := by
      rw [List.append_nil]
      exact isWord
    have read := @scanFrom_word position true kind word.toList [] nonempty alone
    rw [List.append_nil] at read
    simpa [Scan.append, scanFrom] using read
  rw [scan, characters, begins, signed, ends]
  exact ⟨_, _, rfl⟩

/-- A text that is read as a member is the field of a comparison before an equality sign, and the
word behind the sign is its argument. -/
theorem parse_equality {member : Member} {literalKind : LiteralKind}
    (parsed : parse field = .ok [[[.mk false (.bare member)]]])
    (isValue : (kind, literalKind) ∈ valueClasses) (isWord : IsWord true kind word.toList) :
    ∃ position, parse (field ++ "=" ++ word) = .ok [[[.mk false (.compare member "="
      (some (.ofLiteral ⟨literalKind, word, position⟩)))]]] := by
  obtain ⟨notBlank, clean, spelled⟩ := parse_eq_ok_iff_spelledBy.mp parsed
  have isMember := spelled.member_of_bare
  obtain ⟨start, position, read⟩ := scan_equality clean isMember.kind_ne_comparator isWord
  have value : Literal.SpelledBy ⟨literalKind, word, position⟩ ⟨kind, word, position⟩ :=
    ⟨isValue, rfl, rfl⟩
  refine ⟨position, parse_eq_ok_iff_spelledBy.mpr ⟨?_, ?_, ?_⟩⟩
  · simp only [Text.isBlank, String.toList_append, List.all_append] at notBlank ⊢
    simp [notBlank]
  · rw [read]
    simpa [Scan.append] using clean
  · rw [read]
    have isSign : (⟨.comparator, "=", start⟩ : Token).kind = .comparator := rfl
    exact isMember.comparison isSign value

end Texts

end FilterQuery
