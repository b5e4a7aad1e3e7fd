import FilterQuery.Proofs.Token.Scan
import FilterQuery.Proofs.Tree.Position

/-!
# Reading an expression inside parentheses

The parser reads the tokens of a complete expression in the same way inside a parenthesis as at the
start of a text: no step looks at the parentheses around the current one, and the expression ends
exactly at the parenthesis that closes it. Positions are only copied into the tree.
-/

namespace FilterQuery

theorem Token.literal?_mapPosition (move : Nat → Nat) (token : Token) :
    (token.mapPosition move).literal? = token.literal?.map (Literal.mapPosition move) := by
  simp [literal?, mapPosition, Literal.mapPosition, Option.map_map, Function.comp_def]

theorem Token.field?_mapPosition (move : Nat → Nat) (token : Token) :
    (token.mapPosition move).field? = token.field?.map (Literal.mapPosition move) := by
  obtain ⟨kind, text, position⟩ := token
  cases kind <;> rfl

theorem Member.extend_mapPosition (move : Nat → Nat) (member : Member) (part : Literal) :
    (member.mapPosition move).extend (part.mapPosition move) =
      (member.extend part).mapPosition move := by
  simp [extend, mapPosition]

namespace Parser

section Positions

variable (move : Nat → Nat)

/-- What is complete of an expression that stands elsewhere. -/
def Progress.mapPosition (progress : Progress) : Progress where
  sequences := progress.sequences.map (Sequence.mapPosition move)
  factors := progress.factors.map (Factor.mapPosition move)
  terms := progress.terms.map (Term.mapPosition move)

theorem Progress.addTerm_mapPosition (progress : Progress) (term : Term) :
    (progress.mapPosition move).addTerm (term.mapPosition move) =
      (progress.addTerm term).mapPosition move := by
  simp [addTerm, mapPosition]

theorem Progress.closeFactor_mapPosition (progress : Progress) :
    (progress.mapPosition move).closeFactor = progress.closeFactor.mapPosition move := by
  simp [closeFactor, mapPosition, Factor.mapPosition_eq_map]

theorem Progress.closeSequence_mapPosition (progress : Progress) :
    (progress.mapPosition move).closeSequence = progress.closeSequence.mapPosition move := by
  simp [closeSequence, mapPosition, Factor.mapPosition_eq_map, Sequence.mapPosition_eq_map]

theorem Progress.expression_mapPosition (progress : Progress) :
    (progress.mapPosition move).expression =
      Expression.mapPosition move progress.expression := by
  rw [expression, closeSequence_mapPosition, Expression.mapPosition_eq_map]
  rfl

/-- What a parenthesis that stands elsewhere was opened for. -/
def Opening.mapPosition : Opening → Opening
  | .group negated => .group negated
  | .argument negated field comparator => .argument negated (field.mapPosition move) comparator

theorem Opening.term_mapPosition (opening : Opening) (expression : Expression) :
    (opening.mapPosition move).term (Expression.mapPosition move expression) =
      (opening.term expression).mapPosition move := by
  cases opening with
  | group negated => rfl
  | argument negated field comparator => rfl

/-- An open parenthesis that stands elsewhere. -/
def Frame.mapPosition (frame : Frame) : Frame :=
  ⟨frame.opening.mapPosition move, frame.outer.mapPosition move⟩

/-- A current term that stands elsewhere. -/
def Focus.mapPosition : Focus → Focus
  | .start => .start
  | .negation => .negation
  | .member negated field => .member negated (field.mapPosition move)
  | .memberDot negated field => .memberDot negated (field.mapPosition move)
  | .compared negated field comparator => .compared negated (field.mapPosition move) comparator
  | .argument negated field comparator value =>
    .argument negated (field.mapPosition move) comparator (value.mapPosition move)
  | .argumentDot negated field comparator value =>
    .argumentDot negated (field.mapPosition move) comparator (value.mapPosition move)
  | .closed term => .closed (term.mapPosition move)

theorem Focus.term?_mapPosition (focus : Focus) :
    (focus.mapPosition move).term? = focus.term?.map (Term.mapPosition move) := by
  cases focus <;> rfl

namespace State

/-- A state of the parser in a text that stands elsewhere. -/
def mapPosition (state : State) : State where
  frames := state.frames.map (Frame.mapPosition move)
  progress := state.progress.mapPosition move
  focus := state.focus.mapPosition move

theorem startSimple?_mapPosition (state : State) (negated : Bool) (token : Token) :
    (state.mapPosition move).startSimple? negated (token.mapPosition move) =
      (state.startSimple? negated token).map (State.mapPosition move) := by
  obtain ⟨kind, text, position⟩ := token
  cases kind <;> rfl

theorem startTerm?_mapPosition (state : State) (token : Token) :
    (state.mapPosition move).startTerm? (token.mapPosition move) =
      (state.startTerm? token).map (State.mapPosition move) := by
  obtain ⟨kind, text, position⟩ := token
  cases kind <;> rfl

theorem continueAfter?_mapPosition (state : State) (term : Term) (token : Token) :
    (state.mapPosition move).continueAfter? (term.mapPosition move) (token.mapPosition move) =
      (state.continueAfter? term token).map (State.mapPosition move) := by
  have added : (state.mapPosition move).progress.addTerm (term.mapPosition move) =
      (state.progress.addTerm term).mapPosition move :=
    state.progress.addTerm_mapPosition move term
  have sameKind : (token.mapPosition move).kind = token.kind := rfl
  unfold continueAfter?
  simp only [added, sameKind, Progress.closeSequence_mapPosition, Progress.closeFactor_mapPosition,
    Progress.expression_mapPosition]
  split
  · rfl
  · rfl
  · obtain ⟨frames, progress, focus⟩ := state
    cases frames with
    | nil => rfl
    | cons frame frames =>
      simp only [mapPosition, List.map_cons, Frame.mapPosition, Opening.term_mapPosition]
      rfl
  · exact startTerm?_mapPosition move
      { state with progress := (state.progress.addTerm term).closeFactor } token

theorem step?_mapPosition (state : State) (token : Token) :
    (state.mapPosition move).step? (token.mapPosition move) =
      (state.step? token).map (State.mapPosition move) := by
  obtain ⟨frames, progress, focus⟩ := state
  have sameKind : (token.mapPosition move).kind = token.kind := rfl
  cases focus with
  | start => exact startTerm?_mapPosition move ⟨frames, progress, .start⟩ token
  | negation => exact startSimple?_mapPosition move ⟨frames, progress, .negation⟩ true token
  | member negated field =>
    simp only [step?, mapPosition, Focus.mapPosition, sameKind]
    split
    · rfl
    · rfl
    · exact continueAfter?_mapPosition move ⟨frames, progress, .member negated field⟩
        (.mk negated (.bare field)) token
  | memberDot negated field =>
    simp only [step?, mapPosition, Focus.mapPosition, Token.field?_mapPosition, Option.map_map]
    refine congrArg (Option.map · _) (funext fun part => ?_)
    simp only [Function.comp_apply, mapPosition, Focus.mapPosition, Member.extend_mapPosition]
  | compared negated field comparator =>
    simp only [step?, mapPosition, Focus.mapPosition, sameKind]
    split
    · rfl
    · rw [Token.literal?_mapPosition, Option.map_map, Option.map_map]
      rfl
  | argument negated field comparator value =>
    simp only [step?, mapPosition, Focus.mapPosition, sameKind]
    split
    · rfl
    · exact continueAfter?_mapPosition move
        ⟨frames, progress, .argument negated field comparator value⟩
        (.mk negated (.compare field comparator (some value))) token
  | argumentDot negated field comparator value =>
    simp only [step?, mapPosition, Focus.mapPosition, Token.field?_mapPosition, Option.map_map]
    refine congrArg (Option.map · _) (funext fun part => ?_)
    simp only [Function.comp_apply, mapPosition, Focus.mapPosition, Member.extend_mapPosition]
  | closed term =>
    exact continueAfter?_mapPosition move ⟨frames, progress, .closed term⟩ term token

theorem finish?_mapPosition (state : State) :
    (state.mapPosition move).finish? = state.finish?.map (Expression.mapPosition move) := by
  obtain ⟨frames, progress, focus⟩ := state
  simp only [finish?, mapPosition, Focus.term?_mapPosition]
  cases frames with
  | cons frame frames => rfl
  | nil =>
    cases focus.term? with
    | none => rfl
    | some term =>
      simp only [List.map_nil, Option.map_some, Progress.addTerm_mapPosition,
        Progress.expression_mapPosition]

end State

/-- Tokens that stand elsewhere spell the same expression elsewhere. -/
theorem run_mapPosition {state : State} {tokens : List Token} {expression : Expression}
    (complete : run state tokens = .ok expression) :
    run (state.mapPosition move) (tokens.map (Token.mapPosition move)) =
      .ok (Expression.mapPosition move expression) := by
  induction tokens generalizing state with
  | nil =>
    rw [run] at complete
    rw [List.map_nil, run, State.finish?_mapPosition]
    cases finished : state.finish? with
    | none => simp [finished] at complete
    | some found =>
      obtain rfl : found = expression := by simpa [finished] using complete
      rfl
  | cons token rest inductionHypothesis =>
    rw [run] at complete
    rw [List.map_cons, run, State.step?_mapPosition]
    cases stepped : state.step? token with
    | none => simp [stepped] at complete
    | some next =>
      rw [stepped] at complete
      exact inductionHypothesis complete

/-- What tokens spell elsewhere, they spell here. -/
theorem exists_run_of_mapPosition {state : State} {tokens : List Token} {moved : Expression}
    (complete : run (state.mapPosition move) (tokens.map (Token.mapPosition move)) = .ok moved) :
    ∃ expression, run state tokens = .ok expression ∧
      Expression.mapPosition move expression = moved := by
  induction tokens generalizing state with
  | nil =>
    rw [List.map_nil, run, State.finish?_mapPosition] at complete
    rw [run]
    cases finished : state.finish? with
    | none => simp [finished] at complete
    | some found =>
      obtain rfl : Expression.mapPosition move found = moved := by
        simpa [finished] using complete
      exact ⟨found, rfl, rfl⟩
  | cons token rest inductionHypothesis =>
    rw [List.map_cons, run, State.step?_mapPosition] at complete
    rw [run]
    cases stepped : state.step? token with
    | none => simp [stepped] at complete
    | some next =>
      rw [stepped] at complete
      exact inductionHypothesis complete

end Positions

section Frames

/-- The state with more open parentheses around those that it has. -/
def State.within (state : State) (outside : List Frame) : State :=
  { state with frames := state.frames ++ outside }

theorem State.startSimple?_within (state : State) (outside : List Frame) (negated : Bool)
    (token : Token) :
    (state.within outside).startSimple? negated token =
      (state.startSimple? negated token).map (·.within outside) := by
  unfold startSimple?
  split
  · rfl
  · rw [Option.map_map]
    rfl

theorem State.startTerm?_within (state : State) (outside : List Frame) (token : Token) :
    (state.within outside).startTerm? token =
      (state.startTerm? token).map (·.within outside) := by
  unfold startTerm?
  split
  · rfl
  · rfl
  · exact state.startSimple?_within outside false token

/-- The token after a term is read alike inside more parentheses, unless it closes one of them. -/
theorem State.continueAfter?_within {state next : State} {term : Term} {token : Token}
    (stepped : state.continueAfter? term token = some next) (outside : List Frame) :
    (state.within outside).continueAfter? term token = some (next.within outside) := by
  unfold continueAfter? at stepped ⊢
  split at stepped
  · obtain rfl := Option.some.inj stepped
    rfl
  · obtain rfl := Option.some.inj stepped
    rfl
  · split at stepped
    · cases stepped
    · next frame frames opened =>
      obtain rfl := Option.some.inj stepped
      simp [within, opened]
  · have started := startTerm?_within
      { state with progress := (state.progress.addTerm term).closeFactor } outside token
    rwa [show startTerm? _ token = _ from stepped] at started

/-- No step looks at the parentheses around those that the state has. -/
theorem State.step?_within {state next : State} {token : Token}
    (stepped : state.step? token = some next) (outside : List Frame) :
    (state.within outside).step? token = some (next.within outside) := by
  obtain ⟨frames, progress, focus⟩ := state
  cases focus with
  | start =>
    have started := startTerm?_within ⟨frames, progress, .start⟩ outside token
    rwa [show startTerm? _ token = _ from stepped] at started
  | negation =>
    have started := startSimple?_within ⟨frames, progress, .negation⟩ outside true token
    rwa [show startSimple? _ true token = _ from stepped] at started
  | member negated field =>
    simp only [step?, within] at stepped ⊢
    split at stepped
    · obtain rfl := Option.some.inj stepped
      rfl
    · obtain rfl := Option.some.inj stepped
      rfl
    · exact continueAfter?_within stepped outside
  | memberDot negated field =>
    obtain ⟨part, found, rfl⟩ := Option.map_eq_some_iff.mp stepped
    simp [step?, within, found]
  | compared negated field comparator =>
    simp only [step?, within] at stepped ⊢
    split at stepped
    · obtain rfl := Option.some.inj stepped
      rfl
    · obtain ⟨literal, found, rfl⟩ := Option.map_eq_some_iff.mp stepped
      rw [found]
      rfl
  | argument negated field comparator value =>
    simp only [step?, within] at stepped ⊢
    split at stepped
    · obtain rfl := Option.some.inj stepped
      rfl
    · exact continueAfter?_within stepped outside
  | argumentDot negated field comparator value =>
    obtain ⟨part, found, rfl⟩ := Option.map_eq_some_iff.mp stepped
    simp [step?, within, found]
  | closed term => exact continueAfter?_within stepped outside

/-- Where an expression is complete, the next closing parenthesis ends it. -/
theorem State.step?_rightParen {state : State} {expression : Expression}
    (finished : state.finish? = some expression) (frame : Frame) (outside : List Frame)
    (text : String) (position : Nat) :
    (state.within (frame :: outside)).step? ⟨.rightParen, text, position⟩ =
      some ⟨outside, frame.outer, .closed (frame.opening.term expression)⟩ := by
  obtain ⟨frames, progress, focus⟩ := state
  unfold finish? at finished
  split at finished
  · next term closed complete =>
    obtain rfl := Option.some.inj finished
    obtain rfl : frames = [] := closed
    cases focus with
    | member negated field =>
      obtain rfl := Option.some.inj complete
      rfl
    | argument negated field comparator value =>
      obtain rfl := Option.some.inj complete
      rfl
    | closed term =>
      obtain rfl := Option.some.inj complete
      rfl
    | _ => cases complete
  · cases finished

/-- Tokens that spell an expression from a state spell it inside a parenthesis, which the next
closing parenthesis ends. -/
theorem run_within {state : State} {tokens : List Token} {expression : Expression}
    (complete : run state tokens = .ok expression) (frame : Frame) (outside : List Frame)
    (text : String) (position : Nat) (more : List Token) :
    run (state.within (frame :: outside)) (tokens ++ ⟨.rightParen, text, position⟩ :: more) =
      run ⟨outside, frame.outer, .closed (frame.opening.term expression)⟩ more := by
  induction tokens generalizing state with
  | nil =>
    rw [run] at complete
    cases finished : state.finish? with
    | none => simp [finished] at complete
    | some found =>
      obtain rfl : found = expression := by simpa [finished] using complete
      rw [List.nil_append, run, State.step?_rightParen finished]
  | cons token rest inductionHypothesis =>
    rw [run] at complete
    cases stepped : state.step? token with
    | none => simp [stepped] at complete
    | some next =>
      rw [stepped] at complete
      rw [List.cons_append, run, State.step?_within stepped]
      exact inductionHypothesis complete

end Frames

end Parser

end FilterQuery
