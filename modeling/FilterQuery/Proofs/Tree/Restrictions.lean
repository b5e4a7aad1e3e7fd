import FilterQuery.Compile.Comparator
import FilterQuery.Proofs.Token.Scan
import FilterQuery.Proofs.Tree.Parsing

/-!
# The restrictions of a filter

A filter says what it says by its restrictions: bare values, and fields that are compared with
something. They are listed here from left to right, each with the field whose group it stands in, if
it stands in one. A field that is compared with a group comes before what the group holds.

In a filter that was read from text this is the order of the text, nothing is missing from a
restriction, and every comparison has one of the comparison signs.
-/

namespace FilterQuery

/-- The place of a member in the text. -/
def Member.position (member : Member) : Nat := member.head.position

/-- A condition other than a group, with the field whose group it stands in. -/
structure Restriction where
  governing : Option String
  condition : Simple

namespace Restriction

/-- The members that a restriction names itself: what it restricts, and what it compares it with. -/
def members : Restriction → List Member
  | ⟨_, .bare value⟩ => [value]
  | ⟨_, .compare field _ argument⟩ => field :: argument.toList
  | ⟨_, .compareEach field _ _⟩ => [field]
  | ⟨_, .missing⟩ | ⟨_, .group _⟩ => []

/-- The value of a restriction. A field that is compared with a group has none of its own. -/
def value? : Restriction → Option Member
  | ⟨_, .bare value⟩ => some value
  | ⟨_, .compare _ _ argument⟩ => argument
  | ⟨_, .compareEach _ _ _⟩ | ⟨_, .missing⟩ | ⟨_, .group _⟩ => none

/-- Nothing is missing from a restriction, and its sign is a known one. -/
inductive IsWhole (known : String → Prop) : Restriction → Prop where
  | bare {governing : Option String} {value : Member} : IsWhole known ⟨governing, .bare value⟩
  | compare {governing : Option String} {field argument : Member} {sign : String} : known sign →
      IsWhole known ⟨governing, .compare field sign (some argument)⟩
  | compareEach {governing : Option String} {field : Member} {sign : String}
      {values : List (List (List Term))} : known sign →
      IsWhole known ⟨governing, .compareEach field sign values⟩

theorem IsWhole.imp {known weaker : String → Prop} (implies : ∀ sign, known sign → weaker sign)
    {restriction : Restriction} (whole : restriction.IsWhole known) :
    restriction.IsWhole weaker := by
  cases whole with
  | bare => exact .bare
  | compare isKnown => exact .compare (implies _ isKnown)
  | compareEach isKnown => exact .compareEach (implies _ isKnown)

end Restriction

mutual

/-- The restrictions of a term in the group of a field. -/
def Term.restrictions (governing : Option String) : Term → List Restriction
  | .mk _ simple => simple.restrictions governing

/-- The restrictions of a condition in the group of a field. -/
def Simple.restrictions (governing : Option String) : Simple → List Restriction
  | .missing => [⟨governing, .missing⟩]
  | .bare value => [⟨governing, .bare value⟩]
  | .compare field sign argument => [⟨governing, .compare field sign argument⟩]
  | .compareEach field sign values =>
    ⟨governing, .compareEach field sign values⟩ :: Expression.restrictions (some field.text) values
  | .group expression => Expression.restrictions governing expression

/-- The restrictions of an expression in the group of a field. -/
def Expression.restrictions (governing : Option String) :
    List (List (List Term)) → List Restriction
  | [] => []
  | sequence :: rest =>
    Sequence.restrictions governing sequence ++ Expression.restrictions governing rest

/-- The restrictions of a sequence in the group of a field. -/
def Sequence.restrictions (governing : Option String) : List (List Term) → List Restriction
  | [] => []
  | factor :: rest => Factor.restrictions governing factor ++ Sequence.restrictions governing rest

/-- The restrictions of a factor in the group of a field. -/
def Factor.restrictions (governing : Option String) : List Term → List Restriction
  | [] => []
  | term :: rest => term.restrictions governing ++ Factor.restrictions governing rest

end

/-- The values of a filter from left to right. -/
def Expression.values (expression : Expression) : List Member :=
  (Expression.restrictions none expression).filterMap Restriction.value?

/-- A sign that one of some tokens spells. -/
def IsSignIn (tokens : List Token) (sign : String) : Prop :=
  ∃ token ∈ tokens, token.kind = .comparator ∧ token.text = sign

/-- Restrictions that are spelled by some of the tokens of a list: their members stand where tokens
stand, in the order of the tokens, and their signs are among the tokens. -/
structure SpelledIn (tokens : List Token) (restrictions : List Restriction) : Prop where
  order : ((restrictions.flatMap Restriction.members).map Member.position).Sublist
    (tokens.map Token.position)
  whole : ∀ restriction ∈ restrictions, restriction.IsWhole (IsSignIn tokens)

namespace SpelledIn

variable {tokens more : List Token} {first second : List Restriction}

theorem mono (spelled : SpelledIn tokens first) (sublist : tokens.Sublist more) :
    SpelledIn more first where
  order := spelled.order.trans (sublist.map Token.position)
  whole restriction member := by
    refine (spelled.whole restriction member).imp ?_
    rintro sign ⟨token, listed, isSign⟩
    exact ⟨token, sublist.subset listed, isSign⟩

theorem append (spelledFirst : SpelledIn tokens first) (spelledSecond : SpelledIn more second) :
    SpelledIn (tokens ++ more) (first ++ second) where
  order := by
    rw [List.flatMap_append, List.map_append, List.map_append]
    exact spelledFirst.order.append spelledSecond.order
  whole := by
    have left := spelledFirst.mono (List.sublist_append_left tokens more)
    have right := spelledSecond.mono (List.sublist_append_right tokens more)
    exact List.forall_mem_append.mpr ⟨left.whole, right.whole⟩

end SpelledIn

/-- A member stands where the first token stands that spells it. -/
theorem Member.SpelledBy.position_sublist {member : Member} {tokens : List Token}
    (spelled : member.SpelledBy tokens) :
    [member.position].Sublist (tokens.map Token.position) := by
  induction spelled with
  | @head literal token isSpelled =>
    have same : (Member.ofLiteral literal).position = token.position := isSpelled.position
    simp [same]
  | field _ _ _ inductionHypothesis =>
    rw [List.map_append]
    exact inductionHypothesis.trans (List.sublist_append_left _ _)

section Grammar

/-- A comparison adds its field and its sign to what its argument is spelled by. -/
theorem SpelledIn.compared {field : Member} {left right : List Token} {sign : Token}
    (spelled : field.SpelledBy left) (isSign : sign.kind = .comparator)
    {restriction : Restriction} {argument : List Member} {inner : List Restriction}
    (names : restriction.members = field :: argument)
    (whole : restriction.IsWhole (· = sign.text))
    (order : ((argument ++ inner.flatMap Restriction.members).map Member.position).Sublist
      (right.map Token.position))
    (others : ∀ restriction ∈ inner, restriction.IsWhole (IsSignIn right)) :
    SpelledIn (left ++ sign :: right) (restriction :: inner) where
  order := by
    have behind := spelled.position_sublist.append (order.cons sign.position)
    rw [← List.map_cons, ← List.map_append] at behind
    rw [List.flatMap_cons, names]
    exact behind
  whole := by
    refine List.forall_mem_cons.mpr ⟨?_, fun other member => ?_⟩
    · refine whole.imp ?_
      rintro _ rfl
      exact ⟨sign, by simp, isSign, rfl⟩
    · refine (others other member).imp ?_
      rintro text ⟨token, listed, found⟩
      exact ⟨token, by simp [listed], found⟩

mutual

theorem Term.SpelledBy.spelledIn (governing : Option String) {term : Term} {tokens : List Token}
    (spelled : Term.SpelledBy term tokens) : SpelledIn tokens (term.restrictions governing) := by
  match spelled with
  | .mk _ inner => exact (inner.spelledIn governing).mono (List.sublist_append_right _ _)

theorem Simple.SpelledBy.spelledIn (governing : Option String) {simple : Simple}
    {tokens : List Token} (spelled : Simple.SpelledBy simple tokens) :
    SpelledIn tokens (simple.restrictions governing) := by
  match spelled with
  | .bare value =>
    refine ⟨value.position_sublist, ?_⟩
    exact List.forall_mem_singleton.mpr .bare
  | .compare field isSign argument =>
    exact .compared field isSign rfl (.compare rfl) argument.position_sublist
      (List.forall_mem_nil _)
  | @Simple.SpelledBy.compareEach field _ _ _ _ spelledField isSign values =>
    have inner := values.spelledIn (some field.text)
    exact .compared spelledField isSign rfl (.compareEach rfl) inner.order inner.whole
  | .group expression => exact expression.spelledIn governing

theorem Expression.EnclosedBy.spelledIn (governing : Option String)
    {expression : List (List (List Term))} {tokens : List Token}
    (enclosed : Expression.EnclosedBy expression tokens) :
    SpelledIn tokens (Expression.restrictions governing expression) := by
  match enclosed with
  | .parentheses _ inner _ =>
    exact (inner.spelledIn governing).mono (.cons _ (List.sublist_append_left _ _))

theorem Expression.SpelledBy.spelledIn (governing : Option String)
    {expression : List (List (List Term))} {tokens : List Token}
    (spelled : Expression.SpelledBy expression tokens) :
    SpelledIn tokens (Expression.restrictions governing expression) := by
  match spelled with
  | .last head =>
    simp only [Expression.restrictions, List.append_nil]
    exact head.spelledIn governing
  | .cons head _ tail =>
    simp only [Expression.restrictions]
    exact (head.spelledIn governing).append
      ((tail.spelledIn governing).mono (List.sublist_cons_self _ _))

theorem Sequence.SpelledBy.spelledIn (governing : Option String) {sequence : List (List Term)}
    {tokens : List Token} (spelled : Sequence.SpelledBy sequence tokens) :
    SpelledIn tokens (Sequence.restrictions governing sequence) := by
  match spelled with
  | .last head =>
    simp only [Sequence.restrictions, List.append_nil]
    exact head.spelledIn governing
  | .cons head tail =>
    simp only [Sequence.restrictions]
    exact (head.spelledIn governing).append (tail.spelledIn governing)

theorem Factor.SpelledBy.spelledIn (governing : Option String) {factor : List Term}
    {tokens : List Token} (spelled : Factor.SpelledBy factor tokens) :
    SpelledIn tokens (Factor.restrictions governing factor) := by
  match spelled with
  | .last head =>
    simp only [Factor.restrictions, List.append_nil]
    exact head.spelledIn governing
  | .cons head _ tail =>
    simp only [Factor.restrictions]
    exact (head.spelledIn governing).append
      ((tail.spelledIn governing).mono (List.sublist_cons_self _ _))

end

end Grammar

section Texts

variable {text : String} {expression : Expression}

/-- A text is read to the tree that its tokens spell, if it is not blank and has no stray
characters. -/
theorem parse_eq_ok_iff_spelledBy : parse text = .ok expression ↔
    Text.isBlank text = false ∧ (scan text).strays = [] ∧
      Expression.SpelledBy expression (scan text).tokens := by
  unfold parse tokenize
  by_cases blank : Text.isBlank text = true
  · simp [blank]
  · cases strays : (scan text).strays with
    | cons stray others => simp [blank, strays]
    | nil => simp [blank, strays, parseTokens_eq_ok_iff]

/-- The tokens of a filter text spell its tree. -/
theorem spelledBy_of_parse (parsed : parse text = .ok expression) :
    Expression.SpelledBy expression (scan text).tokens :=
  (parse_eq_ok_iff_spelledBy.mp parsed).2.2

theorem isFilled_of_parse (parsed : parse text = .ok expression) : expression.isFilled = true :=
  (spelledBy_of_parse parsed).isFilled

/-- The members of a filter are listed in the order in which they stand in the text. -/
theorem members_in_order (parsed : parse text = .ok expression) :
    ((Expression.restrictions none expression).flatMap Restriction.members).Pairwise
      fun first second => first.position < second.position := by
  have spelled := (spelledBy_of_parse parsed).spelledIn none
  have tokens := (scanFrom_positions 0 false 0 text.toList).2
  have positions : ((scan text).tokens.map Token.position).Pairwise (· < ·) :=
    List.pairwise_map.mpr tokens
  exact List.pairwise_map.mp (positions.sublist spelled.order)

/-- The values of restrictions stand among their members. -/
theorem values_sublist_members (restrictions : List Restriction) :
    (restrictions.filterMap Restriction.value?).Sublist
      (restrictions.flatMap Restriction.members) := by
  induction restrictions with
  | nil => exact .slnil
  | cons restriction rest inductionHypothesis =>
    have own : restriction.value?.toList.Sublist restriction.members := by
      obtain ⟨governing, condition⟩ := restriction
      cases condition with
      | missing | bare | compareEach | group => simp [Restriction.value?, Restriction.members]
      | compare field sign argument => exact List.sublist_cons_self _ _
    have all := own.append inductionHypothesis
    rw [List.flatMap_cons]
    cases found : restriction.value? with
    | none => simpa [found] using all
    | some value => simpa [found] using all

/-- The sign of a comparison that was read from text is that of a comparator. -/
theorem exists_comparator_of_isSignIn {sign : String} (isSign : IsSignIn (scan text).tokens sign) :
    ∃ comparator, Comparator.ofSign? sign = some comparator := by
  obtain ⟨token, listed, isComparator, rfl⟩ := isSign
  obtain ⟨after, rest, -, read⟩ := exists_nextToken?_of_mem listed
  rw [isComparator] at read
  have known := nextToken?_comparator read
  rw [String.ofList_toList] at known
  have signs : ∀ sign ∈ ["<=", ">=", "!=", "<", ">", "=", ":"],
      (Comparator.ofSign? sign).isSome = true := by decide
  exact Option.isSome_iff_exists.mp (signs token.text known)

/-- Nothing is missing from the restrictions of a filter that was read from text. -/
theorem restrictions_whole (parsed : parse text = .ok expression) :
    ∀ restriction ∈ Expression.restrictions none expression,
      restriction.IsWhole fun sign => ∃ comparator, Comparator.ofSign? sign = some comparator := by
  intro restriction member
  have spelled := (spelledBy_of_parse parsed).spelledIn none
  exact (spelled.whole restriction member).imp fun _ => exists_comparator_of_isSignIn

end Texts

end FilterQuery
