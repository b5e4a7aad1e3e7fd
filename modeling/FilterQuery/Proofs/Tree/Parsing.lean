import FilterQuery.Proofs.Tree.Grammar

/-!
# The parser reads the grammar

The parser accepts exactly the tokens that spell a tree, and returns that tree.

`State.ReadFrom` says which tokens may have led to a state; every step keeps it, so that the tokens
of an accepted list spell what was read. In the other direction, the tokens of each construct of the
grammar are read to its end, whatever stands around them: which construct ends where is decided by
the next token alone.
-/

namespace FilterQuery

theorem Token.literal?_eq_some_iff {token : Token} {literal : Literal} :
    token.literal? = some literal ↔ literal.SpelledBy token := by
  obtain ⟨kind, text, position⟩ := token
  obtain ⟨literalKind, literalText, literalPosition⟩ := literal
  constructor
  · intro found
    cases kind <;> cases found <;> exact ⟨by simp [valueClasses], rfl, rfl⟩
  · rintro ⟨known, rfl, rfl⟩
    simp only [valueClasses, List.mem_cons, Prod.mk.injEq, List.not_mem_nil, or_false] at known
    rcases known with ⟨rfl, rfl⟩ | ⟨rfl, rfl⟩ | ⟨rfl, rfl⟩ | ⟨rfl, rfl⟩ | ⟨rfl, rfl⟩ | ⟨rfl, rfl⟩ |
      ⟨rfl, rfl⟩ | ⟨rfl, rfl⟩ <;> rfl

theorem Token.field?_eq_some_iff {token : Token} {literal : Literal} :
    token.field? = some literal ↔ literal.NamedBy token := by
  constructor
  · intro found
    unfold Token.field? at found
    split at found
    · next isKeyword => cases found; exact .keyword (by simp [isKeyword])
    · next isKeyword => cases found; exact .keyword (by simp [isKeyword])
    · next isKeyword => cases found; exact .keyword (by simp [isKeyword])
    · exact .value (literal?_eq_some_iff.mp found)
  · rintro (spelled | isKeyword)
    · have found := literal?_eq_some_iff.mpr spelled
      unfold Token.field?
      split
      · next isKeyword => simp [literal?, isKeyword, TokenKind.literal?] at found
      · next isKeyword => simp [literal?, isKeyword, TokenKind.literal?] at found
      · next isKeyword => simp [literal?, isKeyword, TokenKind.literal?] at found
      · exact found
    · simp only [List.mem_cons, List.not_mem_nil, or_false] at isKeyword
      rcases isKeyword with isKeyword | isKeyword | isKeyword <;> simp [Token.field?, isKeyword]

namespace Parser

namespace State

/-- Reads tokens one after the other, unless one of them is refused. -/
def advance? (state : State) (tokens : List Token) : Option State := tokens.foldlM step? state

@[simp] theorem advance?_nil (state : State) : state.advance? [] = some state := rfl

@[simp] theorem advance?_cons (state : State) (token : Token) (rest : List Token) :
    state.advance? (token :: rest) = (state.step? token).bind (·.advance? rest) := by
  simp [advance?]

theorem advance?_append (state : State) (first second : List Token) :
    state.advance? (first ++ second) = (state.advance? first).bind (·.advance? second) := by
  simp [advance?]

/-- What is complete once the current term is, if that may end here. -/
def settled? (state : State) : Option Progress := state.focus.term?.map state.progress.addTerm

theorem finish?_eq_some_iff {state : State} {expression : Expression} :
    state.finish? = some expression ↔
      state.frames = [] ∧ ∃ progress, state.settled? = some progress ∧
        progress.expression = expression := by
  obtain ⟨frames, progress, focus⟩ := state
  unfold finish? settled?
  cases frames <;> cases focus.term? <;> simp

/-- After a complete term, a token that extends no member is read by what it starts or ends. -/
theorem step?_eq_continueAfter? {state : State} {term : Term} {token : Token}
    (complete : state.focus.term? = some term) (noDot : token.kind ≠ .dot)
    (noComparator : token.kind ≠ .comparator) :
    state.step? token = state.continueAfter? term token := by
  obtain ⟨frames, progress, focus⟩ := state
  cases focus with
  | member negated field =>
    cases complete
    simp only [step?]
  | argument negated field comparator value =>
    cases complete
    simp only [step?]
  | closed found =>
    cases complete
    rfl
  | _ => cases complete

section Settled

variable {state : State} {progress : Progress} {token : Token}

theorem step?_and (settled : state.settled? = some progress) (isAnd : token.kind = .and) :
    state.step? token = some ⟨state.frames, progress.closeSequence, .start⟩ := by
  obtain ⟨term, complete, rfl⟩ := Option.map_eq_some_iff.mp settled
  rw [step?_eq_continueAfter? complete (by simp [isAnd]) (by simp [isAnd])]
  simp [continueAfter?, isAnd]

theorem step?_or (settled : state.settled? = some progress) (isOr : token.kind = .or) :
    state.step? token = some ⟨state.frames, progress, .start⟩ := by
  obtain ⟨term, complete, rfl⟩ := Option.map_eq_some_iff.mp settled
  rw [step?_eq_continueAfter? complete (by simp [isOr]) (by simp [isOr])]
  simp [continueAfter?, isOr]

theorem step?_closing {frame : Frame} {outside : List Frame}
    (settled : state.settled? = some progress) (opened : state.frames = frame :: outside)
    (isClosing : token.kind = .rightParen) :
    state.step? token =
      some ⟨outside, frame.outer, .closed (frame.opening.term progress.expression)⟩ := by
  obtain ⟨term, complete, rfl⟩ := Option.map_eq_some_iff.mp settled
  rw [step?_eq_continueAfter? complete (by simp [isClosing]) (by simp [isClosing])]
  simp [continueAfter?, isClosing, opened]

end Settled

end State

/-- The tokens that may start a term. -/
def StartsTerm (token : Token) : Prop :=
  token.kind ∈ [.not, .minus, .leftParen] ∨ ∃ literal : Literal, literal.SpelledBy token

/-- A term that starts behind a complete one belongs to the next factor. -/
theorem State.step?_startsTerm {state : State} {progress : Progress} {token : Token}
    (settled : state.settled? = some progress) (starts : StartsTerm token) :
    state.step? token = State.step? ⟨state.frames, progress.closeFactor, .start⟩ token := by
  obtain ⟨term, complete, rfl⟩ := Option.map_eq_some_iff.mp settled
  have kinds : token.kind ≠ .dot ∧ token.kind ≠ .comparator ∧ token.kind ≠ .and ∧
      token.kind ≠ .or ∧ token.kind ≠ .rightParen := by
    rcases starts with isSign | ⟨literal, spelled⟩
    · simp only [List.mem_cons, List.not_mem_nil, or_false] at isSign
      rcases isSign with isSign | isSign | isSign <;> simp [isSign]
    · have known := spelled.kind
      refine ⟨?_, ?_, ?_, ?_, ?_⟩ <;> intro other <;> simp [other, valueClasses] at known
  obtain ⟨noDot, noComparator, noAnd, noOr, noClosing⟩ := kinds
  rw [State.step?_eq_continueAfter? complete noDot noComparator]
  unfold State.continueAfter?
  split
  · next isAnd => exact absurd isAnd noAnd
  · next isOr => exact absurd isOr noOr
  · next isClosing => exact absurd isClosing noClosing
  · rfl

/-- Tokens are read to an expression exactly when none is refused and the last state may end. -/
theorem run_eq_ok_iff {state : State} {tokens : List Token} {expression : Expression} :
    run state tokens = .ok expression ↔
      ∃ last, state.advance? tokens = some last ∧ last.finish? = some expression := by
  induction tokens generalizing state with
  | nil =>
    rw [run]
    cases finished : state.finish? <;> simp [finished]
  | cons token rest inductionHypothesis =>
    rw [run]
    cases stepped : state.step? token with
    | none => simp [stepped]
    | some next => simpa [stepped] using inductionHypothesis

section Starts

/-- Tokens of which the first may start a term. -/
def StartTerm (tokens : List Token) : Prop :=
  ∃ token rest, tokens = token :: rest ∧ StartsTerm token

theorem StartTerm.append {tokens : List Token} (start : StartTerm tokens) (more : List Token) :
    StartTerm (tokens ++ more) := by
  obtain ⟨token, rest, rfl, starts⟩ := start
  exact ⟨token, rest ++ more, rfl, starts⟩

theorem startTerm_member {member : Member} {tokens : List Token}
    (spelled : member.SpelledBy tokens) : StartTerm tokens := by
  induction spelled with
  | head spelled => exact ⟨_, [], rfl, .inr ⟨_, spelled⟩⟩
  | field _ _ _ inductionHypothesis => exact inductionHypothesis.append _

theorem startTerm_enclosed {expression : Expression} {tokens : List Token}
    (enclosed : Expression.EnclosedBy expression tokens) : StartTerm tokens := by
  cases enclosed with
  | parentheses isOpening _ _ => exact ⟨_, _, rfl, .inl (by simp [isOpening])⟩

theorem startTerm_simple {simple : Simple} {tokens : List Token}
    (spelled : simple.SpelledBy tokens) : StartTerm tokens := by
  cases spelled with
  | bare value => exact startTerm_member value
  | compare field _ _ => exact (startTerm_member field).append _
  | compareEach field _ _ => exact (startTerm_member field).append _
  | group enclosed => exact startTerm_enclosed enclosed

theorem startTerm_term {term : Term} {tokens : List Token} (spelled : term.SpelledBy tokens) :
    StartTerm tokens := by
  obtain ⟨negation, simple⟩ := spelled
  cases negation with
  | plain => exact startTerm_simple simple
  | negated isSign =>
    refine ⟨_, _, rfl, .inl ?_⟩
    simp only [List.mem_cons, List.not_mem_nil, or_false] at isSign ⊢
    exact isSign.imp_right .inl

theorem startTerm_factor {factor : Factor} {tokens : List Token}
    (spelled : Factor.SpelledBy factor tokens) : StartTerm tokens := by
  cases spelled with
  | last head => exact startTerm_term head
  | cons head _ _ => exact (startTerm_term head).append _

theorem startTerm_sequence {sequence : Sequence} {tokens : List Token}
    (spelled : Sequence.SpelledBy sequence tokens) : StartTerm tokens := by
  cases spelled with
  | last head => exact startTerm_factor head
  | cons head _ => exact (startTerm_factor head).append _

/-- Tokens that start a term are read behind a complete factor as at the start of the next one. -/
theorem State.advance?_startTerm {state : State} {progress : Progress} {tokens : List Token}
    (settled : state.settled? = some progress) (start : StartTerm tokens) :
    state.advance? tokens = State.advance? ⟨state.frames, progress.closeFactor, .start⟩ tokens := by
  obtain ⟨token, rest, rfl, starts⟩ := start
  rw [advance?_cons, advance?_cons, step?_startsTerm settled starts]

end Starts

section Completeness

/-- The side of a comparator on which a member stands. -/
inductive Side where
  | left (negated : Bool)
  | right (negated : Bool) (field : Member) (comparator : String)

/-- The focus on a member that has been read so far. -/
def Side.reading : Side → Member → Focus
  | .left negated, member => .member negated member
  | .right negated field comparator, member => .argument negated field comparator member

/-- A member is read part by part on either side of a comparator. -/
theorem advance?_member {member : Member} {tokens : List Token} (spelled : member.SpelledBy tokens)
    {state : State} (side : Side)
    (starts : ∀ {token : Token} {literal : Literal}, literal.SpelledBy token →
      state.step? token = some { state with focus := side.reading (.ofLiteral literal) }) :
    state.advance? tokens = some { state with focus := side.reading member } := by
  induction spelled with
  | head spelled => simp [starts spelled]
  | field _ isDot named inductionHypothesis =>
    have found := Token.field?_eq_some_iff.mpr named
    rw [State.advance?_append, inductionHypothesis, Option.bind_some]
    cases side <;> simp [State.step?, Side.reading, isDot, found]

/-- The focus before a condition, with or without a negation before it. -/
def Focus.before : Bool → Focus
  | false => .start
  | true => .negation

section Before

variable (frames : List Frame) (progress : Progress) (negated : Bool) {token : Token}

theorem step?_before_value {literal : Literal} (spelled : literal.SpelledBy token) :
    State.step? ⟨frames, progress, .before negated⟩ token =
      some ⟨frames, progress, .member negated (.ofLiteral literal)⟩ := by
  have found := Token.literal?_eq_some_iff.mpr spelled
  obtain ⟨kind, text, position⟩ := token
  cases negated <;> cases kind <;> cases found <;> rfl

theorem step?_before_opening (isOpening : token.kind = .leftParen) :
    State.step? ⟨frames, progress, .before negated⟩ token =
      some ⟨⟨.group negated, progress⟩ :: frames, {}, .start⟩ := by
  cases negated <;>
    simp [State.step?, Focus.before, State.startTerm?, State.startSimple?, isOpening,
      State.openGroup]

theorem step?_compared_value {field : Member} {comparator : String} {literal : Literal}
    (spelled : literal.SpelledBy token) :
    State.step? ⟨frames, progress, .compared negated field comparator⟩ token =
      some ⟨frames, progress, .argument negated field comparator (.ofLiteral literal)⟩ := by
  have found := Token.literal?_eq_some_iff.mpr spelled
  obtain ⟨kind, text, position⟩ := token
  cases kind <;> cases found <;> rfl

end Before

/-- A field and a comparator are read up to the argument. -/
theorem advance?_compared {field : Member} {left : List Token} {sign : Token}
    (spelled : field.SpelledBy left) (isSign : sign.kind = .comparator) (frames : List Frame)
    (progress : Progress) (negated : Bool) (right : List Token) :
    State.advance? ⟨frames, progress, .before negated⟩ (left ++ sign :: right) =
      State.advance? ⟨frames, progress, .compared negated field sign.text⟩ right := by
  have member := advance?_member spelled (.left negated)
    (fun spelled => step?_before_value frames progress negated spelled)
  rw [State.advance?_append, member, Option.bind_some, State.advance?_cons]
  simp [State.step?, Side.reading, isSign]

mutual

/-- A term is read to its end. -/
theorem advance?_term {term : Term} {tokens : List Token} (spelled : Term.SpelledBy term tokens)
    (frames : List Frame) (progress : Progress) :
    ∃ focus, State.advance? ⟨frames, progress, .start⟩ tokens = some ⟨frames, progress, focus⟩ ∧
      focus.term? = some term := by
  match spelled with
  | .mk .plain inner => exact advance?_simple inner frames progress false
  | @Term.SpelledBy.mk _ _ _ rest (.negated isSign) inner =>
    obtain ⟨focus, reads, complete⟩ := advance?_simple inner frames progress true
    refine ⟨focus, ?_, complete⟩
    rw [← reads, List.singleton_append, State.advance?_cons]
    simp only [List.mem_cons, List.not_mem_nil, or_false] at isSign
    rcases isSign with isSign | isSign <;>
      simp [State.step?, State.startTerm?, isSign, Focus.before]

/-- A condition is read to its end, with or without a negation before it. -/
theorem advance?_simple {simple : Simple} {tokens : List Token}
    (spelled : Simple.SpelledBy simple tokens) (frames : List Frame) (progress : Progress)
    (negated : Bool) :
    ∃ focus, State.advance? ⟨frames, progress, .before negated⟩ tokens =
      some ⟨frames, progress, focus⟩ ∧ focus.term? = some (.mk negated simple) := by
  match spelled with
  | .bare value =>
    exact ⟨_, advance?_member value (.left negated)
      (fun spelled => step?_before_value frames progress negated spelled), rfl⟩
  | .compare field isSign argument =>
    rw [advance?_compared field isSign]
    exact ⟨_, advance?_member argument (.right negated _ _)
      (fun spelled => step?_compared_value frames progress negated spelled), rfl⟩
  | .compareEach field isSign values =>
    rw [advance?_compared field isSign]
    refine ⟨_, advance?_enclosed values (.argument negated _ _) fun isOpening => ?_, rfl⟩
    simp [State.step?, isOpening, State.openGroup]
  | .group expression =>
    exact ⟨_, advance?_enclosed expression (.group negated)
      (fun isOpening => step?_before_opening frames progress negated isOpening), rfl⟩

/-- A group is read up to the parenthesis that closes it. -/
theorem advance?_enclosed {expression : List (List (List Term))} {tokens : List Token}
    (enclosed : Expression.EnclosedBy expression tokens) {frames : List Frame}
    {progress : Progress} {focus : Focus} (opening : Opening)
    (opens : ∀ {token : Token}, token.kind = .leftParen →
      State.step? ⟨frames, progress, focus⟩ token =
        some ⟨⟨opening, progress⟩ :: frames, {}, .start⟩) :
    State.advance? ⟨frames, progress, focus⟩ tokens =
      some ⟨frames, progress, .closed (opening.term expression)⟩ := by
  match enclosed with
  | .parentheses isOpening inner isClosing =>
    obtain ⟨last, complete, reads, opened, settled, same⟩ :=
      advance?_expression inner (⟨opening, progress⟩ :: frames) []
    rw [State.advance?_cons, opens isOpening, Option.bind_some, State.advance?_append, reads,
      Option.bind_some, State.advance?_cons, State.step?_closing settled opened isClosing, same]
    rfl

/-- An expression is read to its end behind other sequences. -/
theorem advance?_expression {expression : List (List (List Term))} {tokens : List Token}
    (spelled : Expression.SpelledBy expression tokens) (frames : List Frame)
    (before : List Sequence) :
    ∃ last progress, State.advance? ⟨frames, ⟨before, [], []⟩, .start⟩ tokens = some last ∧
      last.frames = frames ∧ last.settled? = some progress ∧
      progress.expression = before ++ expression := by
  match spelled with
  | .last head =>
    obtain ⟨last, factors, terms, reads, sameFrames, settled, same⟩ :=
      advance?_sequence head frames before []
    refine ⟨last, _, reads, sameFrames, settled, ?_⟩
    simp [Progress.expression, Progress.closeSequence, same]
  | @Expression.SpelledBy.cons sequence rest _ _ _ head isAnd tail =>
    obtain ⟨middle, factors, terms, reads, rfl, settled, same⟩ :=
      advance?_sequence head frames before []
    obtain ⟨last, progress, readsTail, sameFrames, settledTail, sameTail⟩ :=
      advance?_expression tail middle.frames (before ++ [sequence])
    refine ⟨last, progress, ?_, sameFrames, settledTail, by simpa using sameTail⟩
    rw [State.advance?_append, reads, Option.bind_some, State.advance?_cons,
      State.step?_and settled isAnd, Option.bind_some, ← readsTail]
    simp [Progress.closeSequence, same]

/-- A sequence is read to its end behind other factors. -/
theorem advance?_sequence {sequence : List (List Term)} {tokens : List Token}
    (spelled : Sequence.SpelledBy sequence tokens) (frames : List Frame)
    (sequences : List Sequence) (before : List Factor) :
    ∃ last factors terms,
      State.advance? ⟨frames, ⟨sequences, before, []⟩, .start⟩ tokens = some last ∧
      last.frames = frames ∧ last.settled? = some ⟨sequences, factors, terms⟩ ∧
      factors ++ [terms] = before ++ sequence := by
  match spelled with
  | .last head =>
    obtain ⟨last, reads, sameFrames, settled⟩ := advance?_factor head frames sequences before []
    exact ⟨last, before, _, reads, sameFrames, settled, rfl⟩
  | @Sequence.SpelledBy.cons factor rest _ _ head tail =>
    obtain ⟨middle, reads, rfl, settled⟩ := advance?_factor head frames sequences before []
    obtain ⟨last, factors, terms, readsTail, sameFrames, settledTail, same⟩ :=
      advance?_sequence tail middle.frames sequences (before ++ [factor])
    refine ⟨last, factors, terms, ?_, sameFrames, settledTail, by simpa using same⟩
    -- Nothing stands between factors: the first token of the tail closes this one.
    rw [State.advance?_append, reads, Option.bind_some,
      State.advance?_startTerm settled (startTerm_sequence tail), ← readsTail]
    rfl

/-- A factor is read to its end behind other terms. -/
theorem advance?_factor {factor : List Term} {tokens : List Token}
    (spelled : Factor.SpelledBy factor tokens) (frames : List Frame) (sequences : List Sequence)
    (factors : List Factor) (before : List Term) :
    ∃ last, State.advance? ⟨frames, ⟨sequences, factors, before⟩, .start⟩ tokens = some last ∧
      last.frames = frames ∧ last.settled? = some ⟨sequences, factors, before ++ factor⟩ := by
  match spelled with
  | .last head =>
    obtain ⟨focus, reads, complete⟩ := advance?_term head frames ⟨sequences, factors, before⟩
    refine ⟨_, reads, rfl, ?_⟩
    simp [State.settled?, complete, Progress.addTerm]
  | @Factor.SpelledBy.cons term rest _ _ _ head isOr tail =>
    obtain ⟨focus, reads, complete⟩ := advance?_term head frames ⟨sequences, factors, before⟩
    obtain ⟨last, readsTail, sameFrames, settled⟩ :=
      advance?_factor tail frames sequences factors (before ++ [term])
    refine ⟨last, ?_, sameFrames, by simpa using settled⟩
    have settledHead : State.settled? ⟨frames, ⟨sequences, factors, before⟩, focus⟩ =
        some ⟨sequences, factors, before ++ [term]⟩ := by
      simp only [State.settled?, complete, Option.map_some, Progress.addTerm]
    rw [State.advance?_append, reads, Option.bind_some, State.advance?_cons,
      State.step?_or settledHead isOr, Option.bind_some, readsTail]

end

/-- What a list of tokens spells is read from it. -/
theorem run_of_spelledBy {expression : Expression} {tokens : List Token}
    (spelled : Expression.SpelledBy expression tokens) : run {} tokens = .ok expression := by
  obtain ⟨last, progress, reads, noFrames, settled, same⟩ := advance?_expression spelled [] []
  exact run_eq_ok_iff.mpr
    ⟨last, reads, State.finish?_eq_some_iff.mpr ⟨noFrames, progress, settled, same⟩⟩

end Completeness

section Soundness

/-- Items that were read one after the other, each from its own tokens. -/
inductive ReadInTurn {Item : Type} (readFrom : Item → List Token → Prop) :
    List Item → List Token → Prop where
  | nil : ReadInTurn readFrom [] []
  | snoc {items : List Item} {item : Item} {tokens more : List Token} :
      ReadInTurn readFrom items tokens → readFrom item more →
      ReadInTurn readFrom (items ++ [item]) (tokens ++ more)

/-- Items that were read go before a list that is spelled item by item. -/
theorem ReadInTurn.append {Item : Type} {readFrom : Item → List Token → Prop}
    (spelledBy : List Item → List Token → Prop)
    (cons : ∀ {item rest first others}, readFrom item first → spelledBy rest others →
      spelledBy (item :: rest) (first ++ others))
    {items rest : List Item} {tokens others : List Token}
    (inTurn : ReadInTurn readFrom items tokens) (spelled : spelledBy rest others) :
    spelledBy (items ++ rest) (tokens ++ others) := by
  induction inTurn generalizing rest others with
  | nil => exact spelled
  | snoc _ read inductionHypothesis => simpa using inductionHypothesis (cons read spelled)

/-- An item with the separator behind it. -/
inductive Separated {Item : Type} (kind : TokenKind) (spelledBy : Item → List Token → Prop) :
    Item → List Token → Prop where
  | mk {item : Item} {tokens : List Token} {separator : Token} : spelledBy item tokens →
      separator.kind = kind → Separated kind spelledBy item (tokens ++ [separator])

/-- The tokens of what is complete of an expression. -/
inductive Progress.ReadFrom (progress : Progress) : List Token → Prop where
  | mk {first second third : List Token} :
      ReadInTurn (Separated .and Sequence.SpelledBy) progress.sequences first →
      ReadInTurn Factor.SpelledBy progress.factors second →
      ReadInTurn (Separated .or Term.SpelledBy) progress.terms third →
      ReadFrom progress (first ++ second ++ third)

namespace Progress.ReadFrom

theorem empty : Progress.ReadFrom {} [] := by
  have nothing : Progress.ReadFrom {} ([] ++ [] ++ []) := .mk .nil .nil .nil
  exact nothing

variable {progress : Progress} {term : Term} {tokens more : List Token} {separator : Token}

theorem factor {terms : List Term} (read : ReadInTurn (Separated .or Term.SpelledBy) terms tokens)
    (spelled : term.SpelledBy more) : Factor.SpelledBy (terms ++ [term]) (tokens ++ more) := by
  refine read.append Factor.SpelledBy ?_ (.last spelled)
  rintro item rest _ others ⟨head, isOr⟩ tail
  simpa using Factor.SpelledBy.cons head isOr tail

theorem sequence {factors : List Factor} {last : Factor}
    (read : ReadInTurn Factor.SpelledBy factors tokens) (spelled : Factor.SpelledBy last more) :
    Sequence.SpelledBy (factors ++ [last]) (tokens ++ more) :=
  read.append Sequence.SpelledBy .cons (.last spelled)

/-- A term before `OR` is complete. -/
theorem addTerm (read : progress.ReadFrom tokens) (spelled : term.SpelledBy more)
    (isOr : separator.kind = .or) :
    (progress.addTerm term).ReadFrom (tokens ++ more ++ [separator]) := by
  obtain ⟨sequences, factors, terms⟩ := read
  have complete : (progress.addTerm term).ReadFrom _ :=
    .mk sequences factors (.snoc terms (.mk spelled isOr))
  simpa using complete

/-- A factor is complete where the next one starts. -/
theorem closeFactor (read : progress.ReadFrom tokens) (spelled : term.SpelledBy more) :
    (progress.addTerm term).closeFactor.ReadFrom (tokens ++ more) := by
  obtain ⟨sequences, factors, terms⟩ := read
  have complete : (progress.addTerm term).closeFactor.ReadFrom _ :=
    .mk sequences (.snoc factors (factor terms spelled)) .nil
  simpa using complete

/-- A sequence before `AND` is complete. -/
theorem closeSequence (read : progress.ReadFrom tokens) (spelled : term.SpelledBy more)
    (isAnd : separator.kind = .and) :
    (progress.addTerm term).closeSequence.ReadFrom (tokens ++ more ++ [separator]) := by
  obtain ⟨sequences, factors, terms⟩ := read
  have complete : (progress.addTerm term).closeSequence.ReadFrom _ :=
    .mk (.snoc sequences (.mk (sequence factors (factor terms spelled)) isAnd)) .nil .nil
  simpa using complete

/-- An expression is complete where it may end. -/
theorem expression (read : progress.ReadFrom tokens) (spelled : term.SpelledBy more) :
    Expression.SpelledBy (progress.addTerm term).expression (tokens ++ more) := by
  obtain ⟨sequences, factors, terms⟩ := read
  have last := Expression.SpelledBy.last (sequence factors (factor terms spelled))
  have whole := sequences.append Expression.SpelledBy (by
    rintro item rest _ others ⟨head, isAnd⟩ tail
    simpa using Expression.SpelledBy.cons head isAnd tail) last
  simpa [Progress.expression, Progress.closeSequence, Progress.addTerm] using whole

end Progress.ReadFrom

/-- The tokens of the current term, as far as it has been read. -/
inductive Focus.ReadFrom : Focus → List Token → Prop where
  | start : ReadFrom .start []
  | negation {sign : List Token} : NegatedBy true sign → ReadFrom .negation sign
  | member {negated : Bool} {field : Member} {sign tokens : List Token} : NegatedBy negated sign →
      field.SpelledBy tokens → ReadFrom (.member negated field) (sign ++ tokens)
  | memberDot {negated : Bool} {field : Member} {tokens : List Token} {dot : Token} :
      ReadFrom (.member negated field) tokens → dot.kind = .dot →
      ReadFrom (.memberDot negated field) (tokens ++ [dot])
  | compared {negated : Bool} {field : Member} {tokens : List Token} {sign : Token} :
      ReadFrom (.member negated field) tokens → sign.kind = .comparator →
      ReadFrom (.compared negated field sign.text) (tokens ++ [sign])
  | argument {negated : Bool} {field value : Member} {comparator : String}
      {tokens more : List Token} : ReadFrom (.compared negated field comparator) tokens →
      value.SpelledBy more → ReadFrom (.argument negated field comparator value) (tokens ++ more)
  | argumentDot {negated : Bool} {field value : Member} {comparator : String}
      {tokens : List Token} {dot : Token} :
      ReadFrom (.argument negated field comparator value) tokens → dot.kind = .dot →
      ReadFrom (.argumentDot negated field comparator value) (tokens ++ [dot])
  | closed {term : Term} {tokens : List Token} : term.SpelledBy tokens →
      ReadFrom (.closed term) tokens

theorem Focus.ReadFrom.compared_inv {negated : Bool} {field : Member} {comparator : String}
    {tokens : List Token} (read : Focus.ReadFrom (.compared negated field comparator) tokens) :
    ∃ sign left token, NegatedBy negated sign ∧ field.SpelledBy left ∧ token.kind = .comparator ∧
      token.text = comparator ∧ tokens = sign ++ left ++ [token] := by
  cases read with
  | compared left isSign =>
    cases left with
    | member negation spelled => exact ⟨_, _, _, negation, spelled, isSign, rfl, rfl⟩

/-- A term that may end is spelled by its tokens. -/
theorem Focus.ReadFrom.term {focus : Focus} {tokens : List Token} {term : Term}
    (read : focus.ReadFrom tokens) (complete : focus.term? = some term) :
    term.SpelledBy tokens := by
  cases read with
  | member negation field =>
    cases complete
    exact .mk negation (.bare field)
  | argument left value =>
    cases complete
    obtain ⟨sign, left, comparator, negation, field, isSign, rfl, rfl⟩ := left.compared_inv
    simpa using Term.SpelledBy.mk negation (.compare field isSign value)
  | closed spelled =>
    cases complete
    exact spelled
  | _ => cases complete

/-- The tokens up to a parenthesis, from the start of the term that it belongs to. -/
inductive Opening.ReadFrom : Opening → List Token → Prop where
  | group {negated : Bool} {sign : List Token} {opening : Token} : NegatedBy negated sign →
      opening.kind = .leftParen → ReadFrom (.group negated) (sign ++ [opening])
  | argument {negated : Bool} {field : Member} {comparator : String} {tokens : List Token}
      {opening : Token} : Focus.ReadFrom (.compared negated field comparator) tokens →
      opening.kind = .leftParen →
      ReadFrom (.argument negated field comparator) (tokens ++ [opening])

/-- A term that a parenthesis closes is spelled by its tokens. -/
theorem Opening.ReadFrom.term {opening : Opening} {expression : Expression}
    {tokens inner : List Token} {closing : Token} (read : opening.ReadFrom tokens)
    (spelled : Expression.SpelledBy expression inner) (isClosing : closing.kind = .rightParen) :
    (opening.term expression).SpelledBy (tokens ++ inner ++ [closing]) := by
  cases read with
  | group negation isOpening =>
    simpa [Opening.term] using
      Term.SpelledBy.mk negation (.group (.parentheses isOpening spelled isClosing))
  | argument left isOpening =>
    obtain ⟨sign, left, comparator, negation, field, isSign, rfl, rfl⟩ := left.compared_inv
    simpa [Opening.term] using Term.SpelledBy.mk negation
      (.compareEach field isSign (.parentheses isOpening spelled isClosing))

/-- The tokens up to the innermost open parenthesis. -/
inductive FramesReadFrom : List Frame → List Token → Prop where
  | nil : FramesReadFrom [] []
  | cons {frame : Frame} {frames : List Frame} {outer inner opening : List Token} :
      FramesReadFrom frames outer → frame.outer.ReadFrom inner → frame.opening.ReadFrom opening →
      FramesReadFrom (frame :: frames) (outer ++ inner ++ opening)

/-- The tokens that have been read to a state. -/
inductive State.ReadFrom : State → List Token → Prop where
  | mk {frames : List Frame} {progress : Progress} {focus : Focus}
      {outer inner current : List Token} : FramesReadFrom frames outer →
      progress.ReadFrom inner → focus.ReadFrom current →
      ReadFrom ⟨frames, progress, focus⟩ (outer ++ inner ++ current)

namespace State.ReadFrom

section Steps

variable {frames : List Frame} {progress : Progress} {focus : Focus} {outer inner : List Token}
  (outside : FramesReadFrom frames outer) (complete : progress.ReadFrom inner) {token : Token}
  {next : State}

include outside complete

theorem startSimple {negated : Bool} {sign : List Token} (negation : NegatedBy negated sign)
    (stepped : State.startSimple? ⟨frames, progress, focus⟩ negated token = some next) :
    next.ReadFrom (outer ++ inner ++ sign ++ [token]) := by
  unfold State.startSimple? at stepped
  split at stepped
  · next isOpening =>
    cases stepped
    have opened : FramesReadFrom (⟨.group negated, progress⟩ :: frames) _ :=
      .cons outside complete (.group negation isOpening)
    simpa [State.openGroup] using State.ReadFrom.mk opened .empty .start
  · obtain ⟨literal, found, rfl⟩ := Option.map_eq_some_iff.mp stepped
    have spelled := Token.literal?_eq_some_iff.mp found
    simpa using State.ReadFrom.mk outside complete (.member negation (.head spelled))

theorem startTerm (stepped : State.startTerm? ⟨frames, progress, focus⟩ token = some next) :
    next.ReadFrom (outer ++ inner ++ [token]) := by
  unfold State.startTerm? at stepped
  split at stepped
  · next isNot =>
    cases stepped
    exact .mk outside complete (.negation (.negated (by simp [isNot])))
  · next isMinus =>
    cases stepped
    exact .mk outside complete (.negation (.negated (by simp [isMinus])))
  · simpa using startSimple outside complete .plain stepped

theorem continueAfter {term : Term} {current : List Token} (spelled : term.SpelledBy current)
    (stepped : State.continueAfter? ⟨frames, progress, focus⟩ term token = some next) :
    next.ReadFrom (outer ++ inner ++ current ++ [token]) := by
  unfold State.continueAfter? at stepped
  split at stepped
  · next isAnd =>
    cases stepped
    simpa using State.ReadFrom.mk outside (complete.closeSequence spelled isAnd) .start
  · next isOr =>
    cases stepped
    simpa using State.ReadFrom.mk outside (complete.addTerm spelled isOr) .start
  · next isClosing =>
    cases outside with
    | nil => cases stepped
    | cons beyond before opening =>
      cases stepped
      have closed := opening.term (complete.expression spelled) isClosing
      simpa using State.ReadFrom.mk beyond before (.closed closed)
  · simpa using startTerm outside (complete.closeFactor spelled) stepped

end Steps

/-- A step adds its token to those that have been read. -/
theorem step {state next : State} {tokens : List Token} {token : Token}
    (read : state.ReadFrom tokens) (stepped : state.step? token = some next) :
    next.ReadFrom (tokens ++ [token]) := by
  obtain ⟨outside, complete, current⟩ := read
  -- A focus that may end passes what does not extend it on to `continueAfter`.
  cases current with
  | start => simpa using startTerm outside complete stepped
  | negation negation => exact startSimple outside complete negation stepped
  | member negation field =>
    have current := Focus.ReadFrom.member negation field
    simp only [State.step?] at stepped
    split at stepped
    · next isDot =>
      cases stepped
      simpa using State.ReadFrom.mk outside complete (.memberDot current isDot)
    · next isSign =>
      cases stepped
      simpa using State.ReadFrom.mk outside complete (.compared current isSign)
    · exact continueAfter outside complete (current.term rfl) stepped
  | memberDot left isDot =>
    obtain ⟨part, found, rfl⟩ := Option.map_eq_some_iff.mp stepped
    have named := Token.field?_eq_some_iff.mp found
    cases left with
    | member negation field =>
      simpa using State.ReadFrom.mk outside complete (.member negation (.field field isDot named))
  | compared left isSign =>
    have current := Focus.ReadFrom.compared left isSign
    simp only [State.step?] at stepped
    split at stepped
    · next isOpening =>
      cases stepped
      have opened : FramesReadFrom (⟨.argument _ _ _, _⟩ :: _) _ :=
        .cons outside complete (.argument current isOpening)
      simpa [State.openGroup] using State.ReadFrom.mk opened .empty .start
    · obtain ⟨literal, found, rfl⟩ := Option.map_eq_some_iff.mp stepped
      have spelled := Token.literal?_eq_some_iff.mp found
      simpa using State.ReadFrom.mk outside complete (.argument current (.head spelled))
  | argument left value =>
    have current := Focus.ReadFrom.argument left value
    simp only [State.step?] at stepped
    split at stepped
    · next isDot =>
      cases stepped
      simpa using State.ReadFrom.mk outside complete (.argumentDot current isDot)
    · exact continueAfter outside complete (current.term rfl) stepped
  | argumentDot left isDot =>
    obtain ⟨part, found, rfl⟩ := Option.map_eq_some_iff.mp stepped
    have named := Token.field?_eq_some_iff.mp found
    cases left with
    | argument left value =>
      simpa using State.ReadFrom.mk outside complete (.argument left (.field value isDot named))
  | closed spelled => exact continueAfter outside complete spelled stepped

/-- Every token that is read is added to those that have been read. -/
theorem advance {state last : State} {tokens more : List Token} (read : state.ReadFrom tokens)
    (advanced : state.advance? more = some last) : last.ReadFrom (tokens ++ more) := by
  induction more generalizing state tokens with
  | nil =>
    cases advanced
    simpa using read
  | cons token rest inductionHypothesis =>
    obtain ⟨next, stepped, remaining⟩ := Option.bind_eq_some_iff.mp
      ((State.advance?_cons state token rest).symm.trans advanced)
    simpa using inductionHypothesis (read.step stepped) remaining

/-- Where an expression may end, the tokens that have been read spell it. -/
theorem finish {state : State} {tokens : List Token} {expression : Expression}
    (read : state.ReadFrom tokens) (finished : state.finish? = some expression) :
    Expression.SpelledBy expression tokens := by
  obtain ⟨noFrames, progress, settled, rfl⟩ := State.finish?_eq_some_iff.mp finished
  obtain ⟨outside, complete, current⟩ := read
  obtain ⟨term, isTerm, rfl⟩ := Option.map_eq_some_iff.mp settled
  cases noFrames
  cases outside
  exact complete.expression (current.term isTerm)

end State.ReadFrom

/-- What is read from a list of tokens is spelled by it. -/
theorem spelledBy_of_run {expression : Expression} {tokens : List Token}
    (complete : run {} tokens = .ok expression) : Expression.SpelledBy expression tokens := by
  obtain ⟨last, advanced, finished⟩ := run_eq_ok_iff.mp complete
  have start : State.ReadFrom {} [] := .mk .nil .empty .start
  exact (start.advance advanced).finish finished

end Soundness

theorem run_eq_ok_iff_spelledBy {expression : Expression} {tokens : List Token} :
    run {} tokens = .ok expression ↔ Expression.SpelledBy expression tokens :=
  ⟨spelledBy_of_run, run_of_spelledBy⟩

end Parser

theorem parseTokens_eq_ok_iff {tokens : List Token} {stop : Nat} {expression : Expression} :
    parseTokens ⟨tokens, stop⟩ = .ok expression ↔ Expression.SpelledBy expression tokens := by
  rw [← Parser.run_eq_ok_iff_spelledBy]
  unfold parseTokens
  rcases Parser.run {} tokens with (_ | refused) | found <;> simp

/-- The parser accepts exactly the grammar and builds the tree that it spells. Tokens are read to an
expression if and only if they spell it, with its positions, and no list of the expression is then
empty at any level; and no two expressions are spelled by the same tokens. -/
theorem parser_reads_grammar (tokens : List Token) (stop : Nat) :
    (∀ expression, parseTokens ⟨tokens, stop⟩ = .ok expression ↔
      expression.isFilled = true ∧ Expression.SpelledBy expression tokens) ∧
    ∀ first second, Expression.SpelledBy first tokens → Expression.SpelledBy second tokens →
      first = second := by
  constructor
  · intro expression
    constructor
    · intro parsed
      have spelled := parseTokens_eq_ok_iff.mp parsed
      exact ⟨spelled.isFilled, spelled⟩
    · rintro ⟨-, spelled⟩
      exact parseTokens_eq_ok_iff.mpr spelled
  · intro first second spelledFirst spelledSecond
    have parsed := (Parser.run_of_spelledBy spelledFirst).symm.trans
      (Parser.run_of_spelledBy spelledSecond)
    exact Except.ok.inj parsed

/-- A keyword behind a dot, a group as an argument, and a group directly behind it. -/
theorem parser_reads_grammar_groups :
    Expression.SpelledBy
      [[[.mk true (.compareEach ⟨⟨.text, "a", 1⟩, [⟨.text, "OR", 3⟩]⟩ ":"
          [[[.mk false (.bare ⟨⟨.asterisk, "*", 7⟩, []⟩)]]])],
        [.mk false (.group [[[.mk false (.bare ⟨⟨.integer, "1", 10⟩, []⟩)]]])]]]
      [⟨.minus, "-", 0⟩, ⟨.text, "a", 1⟩, ⟨.dot, ".", 2⟩, ⟨.or, "OR", 3⟩, ⟨.comparator, ":", 5⟩,
        ⟨.leftParen, "(", 6⟩, ⟨.asterisk, "*", 7⟩, ⟨.rightParen, ")", 8⟩, ⟨.leftParen, "(", 9⟩,
        ⟨.integer, "1", 10⟩, ⟨.rightParen, ")", 11⟩] :=
  (((parser_reads_grammar _ 12).1 _).mp rfl).2

end FilterQuery
