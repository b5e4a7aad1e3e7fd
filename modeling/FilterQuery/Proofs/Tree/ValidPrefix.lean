import FilterQuery.Proofs.Tree.Parsing

/-!
# The first impossible token

A list of tokens is viable while more tokens can make it a filter. The parser refuses a token where
the tokens stop being viable, and only there: every state can be completed, and what it refuses no
filter continues with. So a parse error neither comes early nor late.
-/

namespace FilterQuery

/-- Tokens that spell a filter. -/
def IsSpelling (tokens : List Token) : Prop :=
  ∃ expression, Expression.SpelledBy expression tokens

/-- Tokens with which some filter starts. -/
def IsViable (tokens : List Token) : Prop := ∃ more, IsSpelling (tokens ++ more)

namespace Parser

theorem isSpelling_iff {tokens : List Token} :
    IsSpelling tokens ↔ ∃ last expression, State.advance? {} tokens = some last ∧
      last.finish? = some expression := by
  constructor
  · rintro ⟨expression, spelled⟩
    obtain ⟨last, advanced, finished⟩ := run_eq_ok_iff.mp (run_of_spelledBy spelled)
    exact ⟨last, expression, advanced, finished⟩
  · rintro ⟨last, expression, advanced, finished⟩
    exact ⟨expression, spelledBy_of_run (run_eq_ok_iff.mpr ⟨last, advanced, finished⟩)⟩

/-- The tokens that complete the current term: a value where one is missing. -/
def Focus.completion : Focus → List Token
  | .member _ _ | .argument _ _ _ _ | .closed _ => []
  | _ => [⟨.text, "x", 0⟩]

/-- The current term can be completed. -/
theorem State.exists_settled (state : State) :
    ∃ last progress, state.advance? state.focus.completion = some last ∧
      last.frames = state.frames ∧ last.settled? = some progress := by
  obtain ⟨frames, progress, focus⟩ := state
  cases focus <;> exact ⟨_, _, rfl, rfl, rfl⟩

/-- After a complete term, closing every open parenthesis completes the expression. -/
theorem State.exists_finish {state : State} {frames : List Frame} {progress : Progress}
    (opened : state.frames = frames) (settled : state.settled? = some progress) :
    ∃ last expression,
      state.advance? (List.replicate frames.length ⟨.rightParen, ")", 0⟩) = some last ∧
      last.finish? = some expression := by
  induction frames generalizing state progress with
  | nil => exact ⟨state, _, rfl, finish?_eq_some_iff.mpr ⟨opened, progress, settled, rfl⟩⟩
  | cons frame outside inductionHypothesis =>
    rw [List.length_cons, List.replicate_succ, advance?_cons,
      step?_closing settled opened rfl, Option.bind_some]
    exact inductionHypothesis rfl rfl

/-- What has been read without refusal is viable. -/
theorem isViable_of_advance? {tokens : List Token} {state : State}
    (advanced : State.advance? {} tokens = some state) : IsViable tokens := by
  obtain ⟨middle, progress, completed, sameFrames, settled⟩ := state.exists_settled
  obtain ⟨last, expression, closed, finished⟩ := State.exists_finish sameFrames settled
  -- A value if one is missing, then a parenthesis for every open one.
  refine ⟨state.focus.completion ++ List.replicate state.frames.length ⟨.rightParen, ")", 0⟩, ?_⟩
  refine isSpelling_iff.mpr ⟨last, expression, ?_, finished⟩
  rw [State.advance?_append, advanced, Option.bind_some, State.advance?_append, completed,
    Option.bind_some, closed]

/-- A refused token makes tokens that are not viable. -/
theorem not_isViable_of_refused {tokens : List Token} {state : State} {token : Token}
    (advanced : State.advance? {} tokens = some state) (refused : state.step? token = none) :
    ¬ IsViable (tokens ++ [token]) := by
  rintro ⟨more, spelling⟩
  obtain ⟨last, expression, read, -⟩ := isSpelling_iff.mp spelling
  rw [List.append_assoc, State.advance?_append, advanced, Option.bind_some,
    List.singleton_append, State.advance?_cons, refused] at read
  cases read

/-- Tokens that are not read to an expression have a first refused token, or end too early. -/
theorem exists_refused {state : State} {tokens : List Token} {refused : Option Token}
    (failed : run state tokens = .error refused) :
    (∃ before token after last, tokens = before ++ token :: after ∧ refused = some token ∧
      state.advance? before = some last ∧ last.step? token = none) ∨
    (refused = none ∧ ∃ last, state.advance? tokens = some last ∧ last.finish? = none) := by
  induction tokens generalizing state with
  | nil =>
    rw [run] at failed
    cases finished : state.finish? with
    | some expression => simp [finished] at failed
    | none =>
      obtain rfl : none = refused := by simpa [finished] using failed
      exact .inr ⟨rfl, state, rfl, finished⟩
  | cons token rest inductionHypothesis =>
    rw [run] at failed
    cases stepped : state.step? token with
    | none =>
      obtain rfl : some token = refused := by simpa [stepped] using failed
      exact .inl ⟨[], token, rest, state, rfl, rfl, rfl, stepped⟩
    | some next =>
      rw [stepped] at failed
      rcases inductionHypothesis failed with
        ⟨before, other, after, last, rfl, isRefused, advanced, refuses⟩ |
        ⟨isRefused, last, advanced, unfinished⟩
      · refine .inl ⟨token :: before, other, after, last, rfl, isRefused, ?_, refuses⟩
        rw [State.advance?_cons, stepped, Option.bind_some, advanced]
      · refine .inr ⟨isRefused, last, ?_, unfinished⟩
        rw [State.advance?_cons, stepped, Option.bind_some, advanced]

end Parser

/-- Counting the bytes of the characters of a text counts the bytes of the text. -/
theorem Text.utf8Length_ofList (characters : List Char) :
    utf8Length characters = (String.ofList characters).utf8ByteSize := by
  induction characters with
  | nil => rfl
  | cons c rest inductionHypothesis =>
    have head : utf8Length (c :: rest) = c.utf8Size + utf8Length rest := rfl
    rw [head, inductionHypothesis, String.ofList_cons, String.utf8ByteSize_append,
      String.utf8ByteSize_singleton]

/-- The tokens of a text end where the text ends. -/
theorem tokenize_stop {text : String} {list : TokenList} (tokenized : tokenize text = .ok list) :
    list.stop = text.utf8ByteSize := by
  simp only [tokenize] at tokenized
  split at tokenized
  · cases tokenized
    rw [Text.utf8Length_ofList, String.ofList_toList]
  · cases tokenized

theorem parse_of_tokenize {text : String} {list : TokenList}
    (written : Text.isBlank text = false) (tokenized : tokenize text = .ok list) :
    parse text = parseTokens list := by
  simp [parse, written, tokenized]

/-- Tokens are rejected with the token that was refused, or with their end. -/
theorem parseTokens_eq_error {list : TokenList} {error : ParseError}
    (rejected : parseTokens list = .error error) :
    ∃ refused, Parser.run {} list.tokens = .error refused ∧
      error = .unexpected (refused.elim list.stop Token.position) refused := by
  unfold parseTokens at rejected
  split at rejected
  · cases rejected
  · next token failed =>
    cases rejected
    exact ⟨some token, failed, rfl⟩
  · next failed =>
    cases rejected
    exact ⟨none, failed, rfl⟩

/-- A parse error points at the first impossible token. If a text that is not blank consists of
tokens and is no filter, the error is at one of its tokens, or at its end. The tokens before that
one start some filter. With it they start no filter; if the error is at the end, the tokens are no
filter as they stand. -/
theorem error_at_first_impossible_token {text : String} {list : TokenList} {error : ParseError}
    (written : Text.isBlank text = false) (tokenized : tokenize text = .ok list)
    (rejected : parse text = .error error) :
    (∃ before token after, list.tokens = before ++ token :: after ∧
      error = .unexpected token.position (some token) ∧ IsViable before ∧
      ∀ more, ¬ IsSpelling (before ++ token :: more)) ∨
    (error = .unexpected text.utf8ByteSize none ∧ IsViable list.tokens ∧
      ¬ IsSpelling list.tokens) := by
  rw [parse_of_tokenize written tokenized] at rejected
  obtain ⟨refused, failed, rfl⟩ := parseTokens_eq_error rejected
  rcases Parser.exists_refused failed with
    ⟨before, token, after, last, split, rfl, advanced, refuses⟩ |
    ⟨rfl, last, advanced, unfinished⟩
  · refine .inl ⟨before, token, after, split, rfl, Parser.isViable_of_advance? advanced, ?_⟩
    intro more spelling
    apply Parser.not_isViable_of_refused advanced refuses
    exact ⟨more, by simpa using spelling⟩
  · refine .inr ⟨?_, Parser.isViable_of_advance? advanced, ?_⟩
    · rw [← tokenize_stop tokenized]
      rfl
    · rintro ⟨expression, spelled⟩
      have complete := Parser.run_of_spelledBy spelled
      rw [failed] at complete
      cases complete

/-- A closing parenthesis without an opening one, behind a name of two bytes. -/
theorem error_at_first_impossible_token_closing :
    parse "é=1)" = .error (.unexpected 4 (some ⟨.rightParen, ")", 4⟩)) ∧
      IsViable [⟨.text, "é", 0⟩, ⟨.comparator, "=", 2⟩, ⟨.integer, "1", 3⟩] ∧
      ∀ more, ¬ IsSpelling ([⟨.text, "é", 0⟩, ⟨.comparator, "=", 2⟩, ⟨.integer, "1", 3⟩] ++
        ⟨.rightParen, ")", 4⟩ :: more) := by
  have rejected : parse "é=1)" = .error (.unexpected 4 (some ⟨.rightParen, ")", 4⟩)) := rfl
  have tokenized : tokenize "é=1)" = .ok ⟨[⟨.text, "é", 0⟩, ⟨.comparator, "=", 2⟩,
      ⟨.integer, "1", 3⟩, ⟨.rightParen, ")", 4⟩], 5⟩ := rfl
  rcases error_at_first_impossible_token rfl tokenized rejected with
    ⟨before, token, after, split, isError, viable, impossible⟩ | ⟨isError, -⟩
  · simp only [ParseError.unexpected.injEq, Option.some.injEq] at isError
    obtain ⟨-, rfl⟩ := isError
    rcases before with _ | ⟨first, _ | ⟨second, _ | ⟨third, _ | ⟨fourth, before⟩⟩⟩⟩ <;>
      simp at split
    obtain ⟨rfl, rfl, rfl, -⟩ := split
    exact ⟨rejected, viable, impossible⟩
  · cases isError

end FilterQuery
