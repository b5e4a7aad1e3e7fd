import FilterQuery.Proofs.Token.Words

/-!
# Words written one after the other

Tokens are written with one blank between them, except that none stands behind an opening
parenthesis, before a closing one, or around a dot. Words that are written in this way are read back
as they are unless a dot fuses two of them: a whole number and a number behind the dot make up one
number, and digits behind the dot are a fraction of the seconds of a date.
-/

namespace FilterQuery

section Turns

/-- Tokens of which each is read as `reads` says, given whether a comparator stands before it. -/
def InTurn (reads : Bool → Token → Prop) : Bool → List Token → Prop
  | _, [] => True
  | after, token :: rest => reads after token ∧ InTurn reads (token.kind == .comparator) rest

variable {reads : Bool → Token → Prop}

theorem InTurn.map {weaker : Bool → Token → Prop} {change : Token → Token}
    (sameKind : ∀ token, ((change token).kind == .comparator) = (token.kind == .comparator))
    {after : Bool} {tokens : List Token}
    (implies : ∀ after, ∀ token ∈ tokens, reads after token → weaker after (change token))
    (inTurn : InTurn reads after tokens) : InTurn weaker after (tokens.map change) := by
  induction tokens generalizing after with
  | nil => trivial
  | cons token rest inductionHypothesis =>
    obtain ⟨first, others⟩ := inTurn
    refine ⟨implies after token List.mem_cons_self first, ?_⟩
    rw [sameKind]
    exact inductionHypothesis
      (fun after token listed => implies after token (List.mem_cons_of_mem _ listed)) others

/-- Every token is read as `reads` says, with or without a comparator before it. -/
theorem InTurn.exists_of_mem {after : Bool} {tokens : List Token} {token : Token}
    (inTurn : InTurn reads after tokens) (listed : token ∈ tokens) :
    ∃ after, reads after token := by
  induction tokens generalizing after with
  | nil => cases listed
  | cons first rest inductionHypothesis =>
    rcases List.mem_cons.mp listed with rfl | later
    · exact ⟨after, inTurn.1⟩
    · exact inductionHypothesis inTurn.2 later

/-- A token whose text is a word of its kind. -/
def Token.IsWord (after : Bool) (token : Token) : Prop :=
  FilterQuery.IsWord after token.kind token.text.toList

/-- The text of a token of a kind that has only a few. -/
theorem Token.IsWord.mem_spellings {after : Bool} {token : Token} (isWord : token.IsWord after)
    (few : token.kind.spellings ≠ []) : token.text ∈ token.kind.spellings := by
  have listed := mem_spellings_of_nextToken? isWord few
  rwa [String.ofList_toList] at listed

end Turns

section Written

/-- Whether no blank stands between two tokens. -/
def Token.touches (first second : Token) : Bool :=
  [TokenKind.leftParen, .dot].contains first.kind ||
    [TokenKind.rightParen, .dot].contains second.kind

/-- What stands behind a token before the next one. -/
def gap (token : Token) : List Token → List Char
  | [] => []
  | next :: _ => if token.touches next then [] else [' ']

/-- The text in which tokens are written one after the other. -/
def layout : List Token → List Char
  | [] => []
  | token :: rest => token.text.toList ++ (gap token rest ++ layout rest)

theorem layout_append_cons (front : List Token) (token : Token) (rest : List Token) :
    layout (front ++ token :: rest) =
      layout (front ++ [token]) ++ (gap token rest ++ layout rest) := by
  induction front with
  | nil => simp [layout, gap]
  | cons first front inductionHypothesis =>
    have sameGap : gap first (front ++ token :: rest) = gap first (front ++ [token]) := by
      cases front <;> rfl
    simp only [List.cons_append, layout, inductionHypothesis, sameGap, List.append_assoc]

/-- The characters of a token are written. -/
theorem mem_layout {tokens : List Token} {token : Token} (listed : token ∈ tokens) {c : Char}
    (character : c ∈ token.text.toList) : c ∈ layout tokens := by
  induction tokens with
  | nil => cases listed
  | cons first rest inductionHypothesis =>
    simp only [layout, List.mem_append]
    rcases List.mem_cons.mp listed with rfl | later
    · exact .inl character
    · exact .inr (.inr (inductionHypothesis later))

end Written

section Reading

/-- No token starts with a separator. -/
theorem nextToken?_separator {c : Char} (separator : isSeparator c = true) (after : Bool)
    (rest : List Char) : nextToken? after (c :: rest) = none := by
  have refuse : ∀ c ∈ [' ', '\t', '\n', '\r', '\x0c'], c ∉ '-' :: asciiDigits ∧
      ∀ lexicalClass ∈ LexicalClass.table, lexicalClass.pattern.refusesFirst c = true ∨
        lexicalClass.kind ∈ numberKinds :=
    List.all_iff_forall_prop.mp (by decide)
  have listed : c ∈ [' ', '\t', '\n', '\r', '\x0c'] := by
    simpa [isSeparator, or_assoc] using separator
  obtain ⟨notNumeric, refused⟩ := refuse c listed
  have noMinus : c ≠ '-' := by
    rintro rfl
    exact notNumeric List.mem_cons_self
  rw [nextToken?, if_neg (by simp [startsNegation_of_ne noMinus])]
  refine List.findSome?_eq_none_iff.mpr fun lexicalClass member => ?_
  have missing : lexicalClass.lexeme? (c :: rest) = none := by
    rcases refused lexicalClass member with refuses | isNumber
    · exact LexicalClass.lexeme?_eq_none (Pattern.split?_eq_none_of_refusesFirst refuses rest)
    · exact lexeme?_eq_none_of_numberClass member isNumber notNumeric rest
  rw [missing]
  rfl

/-- What belongs to a token is passed over. -/
theorem scanFrom_length (position : Nat) (after : Bool) (word more : List Char) :
    scanFrom position after word.length (word ++ more) =
      scanFrom (position + Text.utf8Length word) after 0 more := by
  induction word generalizing position with
  | nil => rfl
  | cons c rest inductionHypothesis =>
    rw [List.cons_append, List.length_cons, scanFrom_pending, inductionHypothesis, Nat.add_assoc]
    rfl

/-- Behind a token at the head of a text, reading goes on. -/
theorem scanFrom_word {position : Nat} {after : Bool} {kind : TokenKind} {word more : List Char}
    (nonempty : word ≠ []) (found : nextToken? after (word ++ more) = some (kind, word)) :
    scanFrom position after 0 (word ++ more) =
      Scan.append ⟨[⟨kind, String.ofList word, position⟩], []⟩
        (scanFrom (position + Text.utf8Length word) (kind == .comparator) 0 more) := by
  obtain ⟨c, rest, rfl⟩ := List.exists_cons_of_ne_nil nonempty
  have word : isSeparator c = false := by
    refine Bool.eq_false_iff.mpr fun separator => ?_
    cases (nextToken?_separator separator after (rest ++ more)).symm.trans found
  rw [List.cons_append] at found ⊢
  rw [scanFrom_token word found, List.length_cons, Nat.add_sub_cancel,
    scanFrom_length, Nat.add_assoc]
  rfl

theorem scanFrom_gap (position : Nat) (after : Bool) (token : Token) (rest : List Token)
    (more : List Char) :
    ∃ further, scanFrom position after 0 (gap token rest ++ more) =
      scanFrom further after 0 more := by
  have blank : scanFrom position after 0 (' ' :: more) =
      scanFrom (position + ' '.utf8Size) after 0 more := scanFrom_separator rfl
  cases rest with
  | nil => exact ⟨position, rfl⟩
  | cons next others =>
    rw [gap]
    split
    · exact ⟨position, rfl⟩
    · exact ⟨_, blank⟩

/-- Tokens of which each is read where it is written. -/
def ReadInPlace : Bool → List Token → Prop
  | _, [] => True
  | after, token :: rest =>
    nextToken? after (layout (token :: rest)) = some (token.kind, token.text.toList) ∧
      ReadInPlace (token.kind == .comparator) rest

variable {after : Bool} {tokens : List Token}

/-- Tokens that are read where they are written are all that is read, but for their positions. -/
theorem ReadInPlace.scanFrom_eq (words : InTurn Token.IsWord after tokens)
    (inPlace : ReadInPlace after tokens) (position : Nat) :
    (scanFrom position after 0 (layout tokens)).strays = [] ∧
      (scanFrom position after 0 (layout tokens)).tokens.map (Token.mapPosition fun _ => 0) =
        tokens.map (Token.mapPosition fun _ => 0) := by
  induction tokens generalizing after position with
  | nil => exact ⟨rfl, rfl⟩
  | cons token rest inductionHypothesis =>
    obtain ⟨isWord, others⟩ := words
    obtain ⟨read, inPlaceOthers⟩ := inPlace
    obtain ⟨c, tail, nonempty⟩ := FilterQuery.IsWord.exists_cons isWord
    rw [layout] at read ⊢
    rw [scanFrom_word (by simp [nonempty]) read, String.ofList_toList]
    obtain ⟨further, behind⟩ := scanFrom_gap
      (position + Text.utf8Length token.text.toList) (token.kind == .comparator) token rest
      (layout rest)
    rw [behind]
    obtain ⟨clean, same⟩ := inductionHypothesis others inPlaceOthers further
    refine ⟨Scan.strays_append_eq_nil_iff.mpr ⟨rfl, clean⟩, ?_⟩
    rw [Scan.append, List.map_append, same]
    rfl

end Reading

section Fusion

/-- Two tokens that become one when only a dot stands between them, or of which the first takes a
part of the second. -/
def Token.Fuses (first second : Token) : Prop :=
  (first.kind = .integer ∧ second.kind ∈ numberKinds) ∨
    (first.kind = .datetime ∧ IsSeconds first.text.toList ∧
      startsWithDigit second.text.toList = true)

/-- No dot among some tokens fuses its neighbours. -/
def Unfused : List Token → Prop
  | first :: second :: third :: rest =>
    (second.kind = .dot → ¬ first.Fuses third) ∧ Unfused (second :: third :: rest)
  | _ => True

variable {after : Bool} {token : Token} {rest : List Token}

theorem nextToken?_leftParen (after : Bool) (more : List Char) :
    nextToken? after ('(' :: more) = some (.leftParen, ['(']) := rfl

theorem nextToken?_dot (after : Bool) (more : List Char) :
    nextToken? after ('.' :: more) = some (.dot, ['.']) := rfl

/-- A token of a kind that has only one is written as that. -/
theorem Token.IsWord.text_eq {spelling : String} (isWord : token.IsWord after)
    (only : token.kind.spellings = [spelling]) : token.text = spelling := by
  have listed := isWord.mem_spellings (by simp [only])
  rwa [only, List.mem_singleton] at listed

/-- Nothing stands around a dot. -/
theorem layout_dot {dot : Token} (isDot : dot.kind = .dot) (isWord : dot.IsWord after)
    (token : Token) (rest : List Token) :
    layout (token :: dot :: rest) = token.text.toList ++ '.' :: layout rest := by
  have text : dot.text = "." := isWord.text_eq (by rw [isDot]; rfl)
  have before : gap token (dot :: rest) = [] := by simp [gap, Token.touches, isDot]
  have behind : gap dot rest = [] := by
    cases rest with
    | nil => rfl
    | cons next others => simp [gap, Token.touches, isDot]
  rw [layout, layout, before, behind, text]
  rfl

/-- A word is read where it is written unless a dot behind it changes that. -/
theorem nextToken?_layout (isWord : token.IsWord after)
    (words : InTurn Token.IsWord (token.kind == .comparator) rest)
    (dots : ∀ dot others, rest = dot :: others → dot.kind = .dot →
      nextToken? after (token.text.toList ++ '.' :: layout others) =
        some (token.kind, token.text.toList)) :
    nextToken? after (layout (token :: rest)) = some (token.kind, token.text.toList) := by
  -- A character that ends tokens leaves the word as it is.
  have before {ending : Char} (ends : endsTokens ending = true) (more : List Char) :
      nextToken? after (token.text.toList ++ ending :: more) =
        some (token.kind, token.text.toList) := by
    obtain ⟨c, tail, nonempty⟩ := FilterQuery.IsWord.exists_cons isWord
    unfold Token.IsWord FilterQuery.IsWord at isWord
    rw [nonempty] at isWord ⊢
    exact nextToken?_append ends isWord more
  cases rest with
  | nil =>
    have alone : layout [token] = token.text.toList := by simp [layout, gap]
    rw [alone]
    exact isWord
  | cons next others =>
    by_cases isDot : next.kind = .dot
    · rw [layout_dot isDot words.1]
      exact dots next others rfl isDot
    · by_cases opening : token.kind = .leftParen
      · have text : token.text = "(" := isWord.text_eq (by rw [opening]; rfl)
        rw [layout, text, opening]
        exact nextToken?_leftParen after _
      · by_cases dotted : token.kind = .dot
        · have text : token.text = "." := isWord.text_eq (by rw [dotted]; rfl)
          rw [layout, text, dotted]
          exact nextToken?_dot after _
        · by_cases closing : next.kind = .rightParen
          · have text : next.text = ")" := words.1.text_eq (by rw [closing]; rfl)
            have noGap : gap token (next :: others) = [] := by simp [gap, Token.touches, closing]
            rw [layout, layout, noGap, text]
            exact before endsTokens_rightParen _
          · have blank : gap token (next :: others) = [' '] := by
              simp [gap, Token.touches, isDot, opening, dotted, closing]
            rw [layout, blank]
            exact before (by decide) _

/-- What follows a dot starts with a fraction exactly if it is a number. -/
theorem startsFraction_layout (inPlace : ReadInPlace false (token :: rest)) :
    StartsFraction (layout (token :: rest)) ↔ token.kind ∈ numberKinds := by
  rw [← exists_numberToken_iff]
  constructor
  · rintro ⟨kind, lexeme, found, isNumber⟩
    obtain ⟨rfl, -⟩ := Prod.mk.inj (Option.some.inj (inPlace.1.symm.trans found))
    exact isNumber
  · intro isNumber
    exact ⟨_, _, inPlace.1, isNumber⟩

theorem startsWithDigit_layout (isWord : token.IsWord after) (rest : List Token) :
    startsWithDigit (layout (token :: rest)) = startsWithDigit token.text.toList := by
  obtain ⟨c, tail, nonempty⟩ := FilterQuery.IsWord.exists_cons isWord
  rw [layout, nonempty]
  rfl

/-- Before a dot, a word is read where it is written exactly if it does not fuse with what follows
the dot. -/
theorem nextToken?_dot_layout_iff {third : Token} (isWord : token.IsWord after)
    (isThird : third.IsWord false) (inPlace : ReadInPlace false (third :: rest)) :
    nextToken? after (token.text.toList ++ '.' :: layout (third :: rest)) =
      some (token.kind, token.text.toList) ↔ ¬ token.Fuses third := by
  rw [FilterQuery.IsWord.nextToken?_dot_iff isWord, startsFraction_layout inPlace,
    startsWithDigit_layout isThird, Token.Fuses, not_or]
  refine and_congr_right fun _ => not_congr ⟨?_, fun fuses => fuses.2⟩
  rintro ⟨isSeconds, digit⟩
  exact ⟨FilterQuery.IsWord.kind_of_isSeconds isWord isSeconds, isSeconds, digit⟩

/-- A dot at the very end fuses nothing. -/
theorem nextToken?_dot_end (isWord : token.IsWord after) :
    nextToken? after (token.text.toList ++ ['.']) = some (token.kind, token.text.toList) := by
  refine (FilterQuery.IsWord.nextToken?_dot_iff isWord []).mpr ⟨?_, ?_⟩
  · rintro ⟨-, digits, behind, numbered, -⟩
    cases numbered
  · rintro ⟨-, digit⟩
    cases digit

/-- Words are read where they are written exactly if no dot fuses two of them. -/
theorem readInPlace_iff_unfused {tokens : List Token} (words : InTurn Token.IsWord after tokens) :
    ReadInPlace after tokens ↔ Unfused tokens := by
  induction tokens generalizing after with
  | nil => exact Iff.rfl
  | cons token rest inductionHypothesis =>
    obtain ⟨isWord, others⟩ := words
    have later := inductionHypothesis others
    match rest with
    | [] =>
      refine iff_of_true ⟨nextToken?_layout isWord others ?_, trivial⟩ trivial
      intro dot others same
      cases same
    | [second] =>
      refine iff_of_true ⟨nextToken?_layout isWord others ?_, later.mpr trivial⟩ trivial
      rintro dot others same -
      cases same
      exact nextToken?_dot_end isWord
    | second :: third :: rest =>
      -- Behind a dot, what follows is read as behind any token that is no comparator.
      have behind (isDot : second.kind = .dot)
          (inPlace : ReadInPlace (token.kind == .comparator) (second :: third :: rest)) :
          third.IsWord false ∧ ReadInPlace false (third :: rest) := by
        have noComparator : (second.kind == .comparator) = false := by rw [isDot]; rfl
        have isThird := others.2.1
        have inPlaceThird := inPlace.2
        rw [noComparator] at isThird inPlaceThird
        exact ⟨isThird, inPlaceThird⟩
      constructor
      · rintro ⟨read, inPlace⟩
        refine ⟨fun isDot => ?_, later.mp inPlace⟩
        obtain ⟨isThird, inPlaceThird⟩ := behind isDot inPlace
        rw [layout_dot isDot others.1] at read
        exact (nextToken?_dot_layout_iff isWord isThird inPlaceThird).mp read
      · rintro ⟨apart, unfused⟩
        have inPlace := later.mpr unfused
        refine ⟨nextToken?_layout isWord others ?_, inPlace⟩
        intro dot others same isDot
        cases same
        obtain ⟨isThird, inPlaceThird⟩ := behind isDot inPlace
        exact (nextToken?_dot_layout_iff isWord isThird inPlaceThird).mpr (apart isDot)

/-- Another token is the same if the first is a whole number or a date: only such tokens can fuse
with what follows them. -/
def Token.Agrees (token other : Token) : Prop :=
  token.kind ∈ [.integer, .datetime] → other.kind = token.kind ∧ other.text = token.text

/-- A word that cannot fuse is read as such before every dot. -/
theorem Token.IsWord.nextToken?_dot (isWord : token.IsWord after)
    (notFusible : token.kind ∉ [.integer, .datetime]) (more : List Char) :
    nextToken? after (token.text.toList ++ '.' :: more) =
      some (token.kind, token.text.toList) := by
  refine FilterQuery.IsWord.nextToken?_dot isWord (fun isInteger => ?_) (fun isSeconds => ?_) more
  · have kind := (FilterQuery.IsWord.integer_of_isInteger isWord isInteger).2
    exact notFusible (by simp [kind])
  · have kind := FilterQuery.IsWord.kind_of_isSeconds isWord isSeconds
    exact notFusible (by simp [kind])

/-- Words that agree with what is read from their text are read where they are written. -/
theorem readInPlace_of_agrees {tokens : List Token} {position : Nat}
    (words : InTurn Token.IsWord after tokens)
    (clean : (scanFrom position after 0 (layout tokens)).strays = [])
    (agree : List.Forall₂ Token.Agrees tokens
      (scanFrom position after 0 (layout tokens)).tokens) :
    ReadInPlace after tokens := by
  induction tokens generalizing after position with
  | nil => trivial
  | cons token rest inductionHypothesis =>
    obtain ⟨isWord, others⟩ := words
    obtain ⟨c, tail, nonempty⟩ := FilterQuery.IsWord.exists_cons isWord
    have read : nextToken? after (layout (token :: rest)) =
        some (token.kind, token.text.toList) := by
      by_cases fusible : token.kind ∈ [.integer, .datetime]
      · have starts : layout (token :: rest) = c :: (tail ++ (gap token rest ++ layout rest)) := by
          rw [layout, nonempty, List.cons_append]
        have noSeparator : isSeparator c = false := by
          refine Bool.eq_false_iff.mpr fun separator => ?_
          unfold Token.IsWord FilterQuery.IsWord at isWord
          rw [nonempty] at isWord
          cases (nextToken?_separator separator after tail).symm.trans isWord
        rw [starts] at clean agree ⊢
        cases found : nextToken? after (c :: (tail ++ (gap token rest ++ layout rest))) with
        | none =>
          rw [scanFrom_stray noSeparator found, Scan.strays_append_eq_nil_iff] at clean
          cases clean.1
        | some taken =>
          obtain ⟨kind, lexeme⟩ := taken
          rw [scanFrom_token noSeparator found] at agree
          obtain ⟨sameKind, sameText⟩ := (List.forall₂_cons.mp agree).1 fusible
          have lexemeEq : lexeme = token.text.toList := by simp [← sameText]
          rw [lexemeEq, ← sameKind]
      · exact nextToken?_layout isWord others fun dot others _ _ =>
          isWord.nextToken?_dot fusible (layout others)
    refine ⟨read, ?_⟩
    rw [layout] at read clean agree
    rw [scanFrom_word (by simp [nonempty]) read] at clean agree
    obtain ⟨further, behind⟩ := scanFrom_gap
      (position + Text.utf8Length token.text.toList) (token.kind == .comparator) token rest
      (layout rest)
    rw [behind] at clean agree
    exact inductionHypothesis others (Scan.strays_append_eq_nil_iff.mp clean).2
      (List.forall₂_cons.mp agree).2

end Fusion

section Texts

/-- A token that is read from some text that starts with it. -/
def Token.IsReadFrom (after : Bool) (token : Token) : Prop :=
  ∃ rest, nextToken? after (token.text.toList ++ rest) = some (token.kind, token.text.toList)

/-- The tokens of a text were read one after the other. -/
theorem scanFrom_inTurn (position : Nat) (after : Bool) (pending : Nat) (text : List Char) :
    InTurn Token.IsReadFrom after (scanFrom position after pending text).tokens := by
  induction text generalizing position after pending with
  | nil => trivial
  | cons first rest inductionHypothesis =>
    match pending with
    | pending + 1 =>
      rw [scanFrom_pending]
      exact inductionHypothesis _ _ _
    | 0 =>
      by_cases separator : isSeparator first = true
      · rw [scanFrom_separator separator]
        exact inductionHypothesis _ _ _
      · have word : isSeparator first = false := by simpa using separator
        cases found : nextToken? after (first :: rest) with
        | none =>
          rw [scanFrom_stray word found]
          exact inductionHypothesis _ _ _
        | some read =>
          obtain ⟨kind, lexeme⟩ := read
          obtain ⟨behind, whole⟩ := nextToken?_isPrefix found
          rw [scanFrom_token word found]
          refine ⟨⟨behind, ?_⟩, inductionHypothesis _ _ _⟩
          rw [String.toList_ofList, whole, found]

/-- In a text without stray characters, every character that does not separate tokens belongs to
one. -/
theorem exists_token_of_mem {c : Char} (noSeparator : isSeparator c = false) {position : Nat}
    {after : Bool} {pending : Nat} {text : List Char} (listed : c ∈ text.drop pending)
    (clean : (scanFrom position after pending text).strays = []) :
    ∃ token ∈ (scanFrom position after pending text).tokens, c ∈ token.text.toList := by
  induction text generalizing position after pending with
  | nil => simp at listed
  | cons first rest inductionHypothesis =>
    match pending with
    | pending + 1 =>
      rw [scanFrom_pending] at clean ⊢
      exact inductionHypothesis (by simpa using listed) clean
    | 0 =>
      rw [List.drop_zero] at listed
      by_cases separator : isSeparator first = true
      · rw [scanFrom_separator separator] at clean ⊢
        rcases List.mem_cons.mp listed with rfl | later
        · cases noSeparator.symm.trans separator
        · exact inductionHypothesis (by simpa using later) clean
      · have word : isSeparator first = false := by simpa using separator
        cases found : nextToken? after (first :: rest) with
        | none =>
          rw [scanFrom_stray word found, Scan.strays_append_eq_nil_iff] at clean
          cases clean.1
        | some read =>
          obtain ⟨kind, lexeme⟩ := read
          obtain ⟨head, tail, rfl⟩ := List.exists_cons_of_ne_nil (nextToken?_ne_nil found)
          obtain ⟨behind, whole⟩ := nextToken?_isPrefix found
          obtain ⟨rfl, rfl⟩ := List.cons_eq_cons.mp whole
          rw [scanFrom_token word found] at clean ⊢
          rw [Scan.strays_append_eq_nil_iff] at clean
          -- A character of this token, or one that is left for those behind it.
          rcases List.mem_append.mp (show c ∈ head :: tail ++ behind from listed) with own | later
          · exact ⟨_, List.mem_cons_self, by simpa using own⟩
          · obtain ⟨token, member, has⟩ := inductionHypothesis (by simpa using later) clean.2
            exact ⟨token, List.mem_cons_of_mem _ member, has⟩

end Texts

end FilterQuery
