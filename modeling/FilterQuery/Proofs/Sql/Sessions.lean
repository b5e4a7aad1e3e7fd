import FilterQuery.Compile.Session
import FilterQuery.Proofs.Sql.Numbering

/-!
# Arguments of whole sessions

A session of the backend of clauses compiles filters, some of which fail midway, and combines
clauses that it built before, as often as it likes. A ledger of the session binds every name once.
It accounts for a clause that has no other arguments than the ledger and exactly the arguments that
its text mentions. Entering more keeps that, and so does every connective: clauses that one ledger
accounts for agree on the names that they share, so merging their arguments loses none and changes
none. `Gives` says what each action contributes.
-/

namespace FilterQuery

section Steps

variable {State Failure Predicate : Type} {backend : Backend State Failure Predicate}
  {session : Session State Predicate} {action : Action Predicate} {after : State}

theorem Session.step_of_ok {predicate : Predicate}
    (performed : Build.outcome (perform backend session.predicates action) session.state =
      (.ok predicate, after)) :
    session.step backend action =
      (.ok predicate, ⟨after, session.predicates ++ [predicate]⟩) := by
  unfold Build.outcome at performed
  rw [step, performed]

theorem Session.step_of_error {error : SessionError Failure}
    (performed : Build.outcome (perform backend session.predicates action) session.state =
      (.error error, after)) :
    session.step backend action = (.error error, ⟨after, session.predicates⟩) := by
  unfold Build.outcome at performed
  rw [step, performed]

/-- A step returns what its action returns, and leaves the state that the action leaves. -/
theorem Session.step_outcome (session : Session State Predicate) (action : Action Predicate) :
    (session.step backend action).1 =
        (Build.outcome (perform backend session.predicates action) session.state).1 ∧
      (session.step backend action).2.state =
        (Build.outcome (perform backend session.predicates action) session.state).2 := by
  unfold step Build.outcome
  rcases (perform backend session.predicates action).run.run session.state with
    ⟨error | predicate, after⟩ <;> exact ⟨rfl, rfl⟩

variable {predicates : List Predicate} {state : State}

theorem Session.pick_eq_ok {place : Nat} {predicate : Predicate}
    (picked : Build.outcome
      (pick predicates place : Build State (SessionError Failure) Predicate) state =
        (.ok predicate, after)) :
    predicates[place]? = some predicate ∧ after = state := by
  unfold pick at picked
  split at picked
  · next found isFound =>
    obtain ⟨rfl, rfl⟩ := Build.outcome_pure_eq_ok_iff.mp picked
    exact ⟨isFound, rfl⟩
  · cases picked

/-- What actions build on was built before. -/
theorem Session.pickAll_eq_ok {places : List Nat} {operands : List Predicate}
    (picked : Build.outcome
      (pickAll predicates places : Build State (SessionError Failure) (List Predicate)) state =
        (.ok operands, after)) :
    List.Forall₂ (fun place operand => predicates[place]? = some operand) places operands ∧
      after = state := by
  induction places generalizing operands after with
  | nil =>
    obtain ⟨rfl, rfl⟩ := Build.outcome_pure_eq_ok_iff.mp picked
    exact ⟨.nil, rfl⟩
  | cons place rest inductionHypothesis =>
    simp only [pickAll, Build.outcome_bind_eq_ok_iff, Build.outcome_pure_eq_ok_iff] at picked
    obtain ⟨predicate, first, head, others, second, tail, rfl, rfl⟩ := picked
    obtain ⟨isPredicate, rfl⟩ := pick_eq_ok head
    obtain ⟨arePredicates, rfl⟩ := inductionHypothesis tail
    exact ⟨.cons isPredicate arePredicates, rfl⟩

theorem Session.mem_of_picked {places : List Nat} {operands : List Predicate}
    (picked : List.Forall₂ (fun place operand => predicates[place]? = some operand) places
      operands) :
    ∀ operand ∈ operands, operand ∈ predicates := by
  induction picked with
  | nil => simp
  | cons head _ inductionHypothesis =>
    exact List.forall_mem_cons.mpr ⟨List.mem_of_getElem? head, inductionHypothesis⟩

/-- The session after one action more. -/
theorem Session.run_append_singleton (actions : List (Action Predicate)) :
    run backend session (actions ++ [action]) =
      ((run backend session actions).step backend action).2 := by
  induction actions generalizing session with
  | nil => rfl
  | cons first rest inductionHypothesis => exact inductionHypothesis

end Steps

end FilterQuery

namespace FilterQuery.Sql

/-- The names of the ledger are those of the first arguments, without a gap. -/
def Ledger.IsNumbered (options : Options) (ledger : Ledger) : Prop :=
  ledger.bound.names = (List.range ledger.count).map options.argumentName

/-- What a ledger guarantees about a clause. -/
structure Ledger.Accounts (ledger : Ledger) (clause : Clause) : Prop where
  distinct : clause.arguments.names.Nodup
  bound : clause.arguments ⊆ ledger.bound
  mentions : ∃ names, Mentions clause.text names ∧
    ∀ name, name ∈ names ↔ name ∈ clause.arguments.names

namespace Ledger

variable {options : Options} {ledger : Ledger} {clause : Clause} {operands : List Clause}

namespace IsNumbered

theorem initial : IsNumbered options ⟨0, []⟩ := rfl

theorem enter (numbered : ledger.IsNumbered options) (value : Datum) :
    (ledger.enter options value).IsNumbered options := by
  have before : ledger.bound.map Prod.fst = (List.range ledger.count).map options.argumentName :=
    numbered
  simp [IsNumbered, Ledger.enter, Options.entry, Arguments.names, before, List.range_succ]

theorem nodup (numbered : ledger.IsNumbered options) : ledger.bound.names.Nodup := by
  rw [numbered]
  exact List.Nodup.map options.argumentName_injective List.nodup_range

theorem length (numbered : ledger.IsNumbered options) : ledger.bound.length = ledger.count := by
  have lengths := congrArg List.length numbered
  simpa [Arguments.names] using lengths

end IsNumbered

namespace Accounts

/-- A ledger with more entries still accounts for a clause. -/
theorem mono {later : Ledger} (accounts : ledger.Accounts clause)
    (grows : ledger.bound ⊆ later.bound) : later.Accounts clause :=
  ⟨accounts.distinct, List.Subset.trans accounts.bound grows, accounts.mentions⟩

/-- A clause whose arguments were just entered is accounted for. -/
theorem of_entered {before after : Ledger} {leaves : List Leaf}
    (entered : Entered options before leaves clause after) : after.Accounts clause where
  distinct := entered.numbered.nodup
  bound := by
    rw [entered.ledger]
    exact List.subset_append_right _ _
  mentions := ⟨_, entered.mentions, fun _ => Iff.rfl⟩

/-- A call that binds the next argument is accounted for. -/
theorem of_bindsNext {value : Datum} {call : Build Ledger NoOperands Clause} {after : Ledger}
    (bindsNext : BindsNext options value call)
    (built : call.outcome ledger = (.ok clause, after)) : after.Accounts clause := by
  obtain ⟨found, isOutcome, areArguments, mentions⟩ := bindsNext ledger
  rw [isOutcome] at built
  cases built
  refine ⟨?_, ?_, _, mentions, fun _ => Iff.rfl⟩
  · rw [areArguments]
    exact List.nodup_singleton _
  · rw [areArguments]
    exact List.subset_append_right _ _

/-- The texts of several clauses mention the names of all their arguments. -/
theorem exists_mentioned (accounts : ∀ operand ∈ operands, ledger.Accounts operand) :
    ∃ names, List.Forall₂ (fun clause names => Mentions clause.text names) operands names ∧
      ∀ name, name ∈ names.flatten ↔ ∃ operand ∈ operands, name ∈ operand.arguments.names := by
  induction operands with
  | nil => exact ⟨[], .nil, by simp⟩
  | cons operand rest inductionHypothesis =>
    obtain ⟨head, others⟩ := List.forall_mem_cons.mp accounts
    obtain ⟨names, mentions, areNames⟩ := head.mentions
    obtain ⟨more, allMention, areMore⟩ := inductionHypothesis others
    refine ⟨names :: more, .cons mentions allMention, ?_⟩
    intro name
    rw [List.flatten_cons, List.mem_append, areNames, areMore, List.exists_mem_cons_iff]

/-- Merging the arguments of clauses that are accounted for takes nothing that was not bound. -/
theorem mergeArguments_subset (accounts : ∀ operand ∈ operands, ledger.Accounts operand) :
    Clause.mergeArguments operands ⊆ ledger.bound := by
  intro argument member
  obtain ⟨operand, isOperand, found⟩ := Clause.exists_of_mem_mergeArguments member
  exact (accounts operand isOperand).bound found

theorem join {operator : String} {keyword : Keyword} {strength : Strength}
    (operatorLexes : Lexes operator.toList [.keyword keyword])
    (accounts : ∀ operand ∈ operands, ledger.Accounts operand)
    (joined : Clause.join operator strength operands = .ok clause) : ledger.Accounts clause := by
  obtain ⟨-, -, -, merged⟩ := Clause.join_eq_ok joined
  obtain ⟨names, allMention, areNames⟩ := exists_mentioned accounts
  refine ⟨?_, ?_, names.flatten, .join operatorLexes allMention joined, ?_⟩
  · rw [merged]
    exact Clause.nodup_mergeArguments operands
  · rw [merged]
    exact mergeArguments_subset accounts
  · intro name
    rw [merged, Clause.mem_names_mergeArguments, areNames]

theorem negate (accounts : ledger.Accounts clause) : ledger.Accounts clause.negate := by
  obtain ⟨names, mentions, areNames⟩ := accounts.mentions
  refine ⟨Clause.nodup_mergeArguments [clause], ?_, names, mentions.negate, ?_⟩
  · exact mergeArguments_subset (by simpa using accounts)
  · intro name
    rw [areNames, Clause.arguments_negate, Clause.mem_names_mergeArguments]
    simp

/-- Clauses that one ledger accounts for agree on the names that they share, so merging their
arguments keeps every one of them. -/
theorem mem_mergeArguments (accounts : ∀ operand ∈ operands, ledger.Accounts operand)
    (distinct : ledger.bound.names.Nodup) {argument : String × Datum} :
    argument ∈ Clause.mergeArguments operands ↔
      ∃ operand ∈ operands, argument ∈ operand.arguments := by
  constructor
  · exact Clause.exists_of_mem_mergeArguments
  · rintro ⟨operand, isOperand, found⟩
    have named : argument.1 ∈ (Clause.mergeArguments operands).names :=
      Clause.mem_names_mergeArguments.mpr ⟨operand, isOperand, List.mem_map_of_mem found⟩
    -- The name is bound after merging, perhaps by another operand; the ledger has one value for it.
    obtain ⟨other, isMerged, sameName⟩ := List.mem_map.mp named
    have otherBound : other ∈ ledger.bound := mergeArguments_subset accounts isMerged
    have argumentBound : argument ∈ ledger.bound := (accounts operand isOperand).bound found
    rwa [← Arguments.eq_of_mem distinct otherBound argumentBound sameName]

end Accounts

end Ledger

/-- A session without its ledger. -/
def withoutLedger (session : Session Ledger Clause) : Session Counter Clause :=
  ⟨session.state.count, session.predicates⟩

section Erasure

variable {options : Options} {kept : Ledger → Prop}

theorem pick_steps (predicates : List Clause) (place : Nat) :
    (withLedger (SessionError NoOperands) kept).Steps Eq (Session.pick predicates place)
      (Session.pick predicates place) := by
  unfold Session.pick
  split
  · exact .pure rfl
  · exact .throw rfl

theorem pickAll_steps (predicates : List Clause) (places : List Nat) :
    (withLedger (SessionError NoOperands) kept).Steps Eq (Session.pickAll predicates places)
      (Session.pickAll predicates places) := by
  induction places with
  | nil => exact .pure rfl
  | cons place rest inductionHypothesis =>
    refine (pick_steps predicates place).bind fun clause _ same => ?_
    refine inductionHypothesis.bind fun others _ sameOthers => ?_
    rw [same, sameOthers]
    exact .pure rfl

/-- Every action does the same with and without a ledger. -/
theorem SameCalls.perform (same : SameCalls options kept) (predicates : List Clause)
    (action : Action Clause) :
    (withLedger (SessionError NoOperands) kept).Steps Eq
      (Session.perform (backend options) predicates action)
      (Session.perform (recording options) predicates action) := by
  cases action with
  | compileText text => exact adapt_withLedger (same.operations.compileText text) _
  | compileTree expression => exact adapt_withLedger (same.operations.compileTree expression) _
  | conjunction places =>
    refine (pickAll_steps predicates places).bind fun operands _ picked => ?_
    rw [picked]
    exact adapt_withLedger (same.conjunction _) _
  | disjunction places =>
    refine (pickAll_steps predicates places).bind fun operands _ picked => ?_
    rw [picked]
    exact adapt_withLedger (same.disjunction _) _
  | negation place =>
    refine (pick_steps predicates place).bind fun operand _ picked => ?_
    rw [picked]
    exact adapt_withLedger (same.negation _) _
  | prefixSearch field literal => exact adapt_withLedger (same.prefixSearch field literal) _
  | suffixSearch field literal => exact adapt_withLedger (same.suffixSearch field literal) _
  | compare comparator field value =>
    exact adapt_withLedger (same.compare comparator field value) _
  | add clause => exact .pure rfl

/-- A step has the same outcome and leaves the same session with and without a ledger, and the
property is kept. -/
theorem SameCalls.step (same : SameCalls options kept) (session : Session Ledger Clause)
    (holds : kept session.state) (action : Action Clause) :
    (withoutLedger session).step (backend options) action =
        ((session.step (recording options) action).1,
          withoutLedger (session.step (recording options) action).2) ∧
      kept (session.step (recording options) action).2.state := by
  obtain ⟨sameOutcome, after⟩ :=
    outcome_withLedger (same.perform session.predicates action) session.state holds
  cases performed :
      Build.outcome (Session.perform (recording options) session.predicates action)
        session.state with
  | mk outcome later =>
    rw [performed] at sameOutcome after
    cases outcome with
    | ok clause =>
      rw [Session.step_of_ok performed, Session.step_of_ok sameOutcome]
      exact ⟨rfl, after⟩
    | error error =>
      rw [Session.step_of_error performed, Session.step_of_error sameOutcome]
      exact ⟨rfl, after⟩

end Erasure

section Contributions

variable (options : Options) (session : Session Ledger Clause) (bound : Arguments)
  (outcome : Except (SessionError NoOperands) Clause)

/-- There is a clause with exactly one argument. It is the next one, bound to a value and entered
into the ledger, and the text of the clause mentions it and no other. -/
def GivesNext (value : Datum) : Prop :=
  ∃ clause, outcome = .ok clause ∧
    clause.arguments = [(options.argumentName session.state.count, value)] ∧
    placeholders? clause.text = some [options.argumentName session.state.count] ∧
    bound = session.state.bound ++ clause.arguments

/-- A clause, if there is one, has the merged arguments of the clauses at some places, and nothing
is entered. -/
def GivesMerged (places : List Nat) : Prop :=
  ∀ clause, outcome = .ok clause →
    (∃ operands,
      List.Forall₂ (fun place operand => session.predicates[place]? = some operand) places
        operands ∧ clause.arguments = Clause.mergeArguments operands) ∧
    bound = session.state.bound

/-- What the clause of an action has, and what the ledger `bound` has behind the action. -/
def Gives : Action Clause → Prop
  | .compileText _ | .compileTree _ =>
    ∀ clause, outcome = .ok clause → bound = session.state.bound ++ clause.arguments
  | .conjunction places | .disjunction places => GivesMerged session bound outcome places
  | .negation place => GivesMerged session bound outcome [place]
  | .prefixSearch _ literal => GivesNext options session bound outcome (startPattern literal)
  | .suffixSearch _ literal => GivesNext options session bound outcome (endPattern literal)
  | .compare _ _ value => GivesNext options session bound outcome value.datum
  | .add clause => outcome = .ok clause ∧ bound = session.state.bound

end Contributions

/-- A session whose ledger has numbered every argument and accounts for every clause. -/
structure Sound (options : Options) (session : Session Ledger Clause) : Prop where
  numbered : session.state.IsNumbered options
  accounts : ∀ clause ∈ session.predicates, session.state.Accounts clause

section Sessions

variable {options : Options} {predicates : List Clause} {ledger after : Ledger}

/-- What a connective of earlier clauses joins. It binds nothing. -/
theorem connective_eq_ok {join : List Clause → Build Ledger NoOperands Clause} {operator : String}
    {strength : Strength}
    (joins : ∀ operands, (join operands).outcome ledger =
      (Clause.join operator strength operands, ledger))
    {places : List Nat} {clause : Clause}
    (performed : Build.outcome (do
      let operands ← Session.pickAll predicates places
      ExceptT.adapt SessionError.build (join operands)) ledger = (.ok clause, after)) :
    after = ledger ∧ ∃ operands,
      List.Forall₂ (fun place operand => predicates[place]? = some operand) places operands ∧
        Clause.join operator strength operands = .ok clause := by
  obtain ⟨operands, middle, picked, built⟩ := Build.outcome_bind_eq_ok_iff.mp performed
  obtain ⟨areOperands, rfl⟩ := Session.pickAll_eq_ok picked
  rw [Build.outcome_adapt_eq_ok_iff, joins, Prod.mk.injEq] at built
  exact ⟨built.2.symm, operands, areOperands, built.1⟩

theorem negation_eq_ok {place : Nat} {clause : Clause}
    (performed : Build.outcome
      (Session.perform (recording options) predicates (.negation place)) ledger =
        (.ok clause, after)) :
    after = ledger ∧ ∃ operand, predicates[place]? = some operand ∧ clause = operand.negate := by
  obtain ⟨operand, middle, picked, built⟩ := Build.outcome_bind_eq_ok_iff.mp performed
  obtain ⟨isOperand, rfl⟩ := Session.pick_eq_ok picked
  rw [Build.outcome_adapt_eq_ok_iff, outcome_negation] at built
  cases built
  exact ⟨rfl, operand, isOperand, rfl⟩

/-- The clause that an action builds is accounted for, if those that it builds on are. -/
theorem perform_accounts (named : isName options.placeholder.toList = true) {clause : Clause}
    {action : Action Clause} (own : ∀ clause, action ≠ .add clause)
    (accounts : ∀ clause ∈ predicates, ledger.Accounts clause)
    (performed : Build.outcome (Session.perform (recording options) predicates action) ledger =
      (.ok clause, after)) : after.Accounts clause := by
  cases action with
  | compileText text =>
    obtain ⟨_, _, entered⟩ := (recording_invariant named).compileText
      (Build.outcome_adapt_eq_ok_iff.mp performed)
    exact .of_entered entered
  | compileTree expression =>
    exact .of_entered ((recording_invariant named).compileTree
      (Build.outcome_adapt_eq_ok_iff.mp performed))
  | conjunction places =>
    obtain ⟨rfl, operands, picked, joined⟩ :=
      connective_eq_ok (outcome_conjunction options _) performed
    exact .join .and
      (fun operand isOperand => accounts operand (Session.mem_of_picked picked operand isOperand))
      joined
  | disjunction places =>
    obtain ⟨rfl, operands, picked, joined⟩ :=
      connective_eq_ok (outcome_disjunction options _) performed
    exact .join .or
      (fun operand isOperand => accounts operand (Session.mem_of_picked picked operand isOperand))
      joined
  | negation place =>
    obtain ⟨rfl, operand, isOperand, rfl⟩ := negation_eq_ok performed
    exact (accounts operand (List.mem_of_getElem? isOperand)).negate
  | prefixSearch field literal =>
    exact .of_bindsNext (bindsNext_prefixSearch named field literal)
      (Build.outcome_adapt_eq_ok_iff.mp performed)
  | suffixSearch field literal =>
    exact .of_bindsNext (bindsNext_suffixSearch named field literal)
      (Build.outcome_adapt_eq_ok_iff.mp performed)
  | compare comparator field value =>
    exact .of_bindsNext (bindsNext_compare named field comparator value)
      (Build.outcome_adapt_eq_ok_iff.mp performed)
  | add clause => exact absurd rfl (own clause)

theorem BindsNext.givesNext {value : Datum} {call : Build Ledger NoOperands Clause}
    (bindsNext : BindsNext options value call) (session : Session Ledger Clause) :
    GivesNext options session
      (Build.outcome (ExceptT.adapt SessionError.build call) session.state).2.bound
      (Build.outcome (ExceptT.adapt SessionError.build call) session.state).1 value := by
  obtain ⟨clause, isOutcome, areArguments, mentions⟩ := bindsNext session.state
  have mentioned := mentions.placeholders?
  rw [areArguments] at mentioned
  rw [Build.outcome_adapt, isOutcome]
  exact ⟨clause, rfl, areArguments, mentioned, by rw [areArguments]; rfl⟩

/-- Every action enters what its clause has of its own. -/
theorem step_gives (named : isName options.placeholder.toList = true)
    (session : Session Ledger Clause) (action : Action Clause) :
    Gives options session (session.step (recording options) action).2.state.bound
      (session.step (recording options) action).1 action := by
  rw [(session.step_outcome action).1, (session.step_outcome action).2]
  cases action with
  | compileText text =>
    intro clause isClause
    obtain ⟨_, _, entered⟩ := (recording_invariant named).compileText
      (Build.outcome_adapt_eq_ok_iff.mp (Prod.ext isClause rfl))
    exact congrArg Ledger.bound entered.ledger
  | compileTree expression =>
    intro clause isClause
    have entered := (recording_invariant named).compileTree
      (Build.outcome_adapt_eq_ok_iff.mp (Prod.ext isClause rfl))
    exact congrArg Ledger.bound entered.ledger
  | conjunction places =>
    intro clause isClause
    obtain ⟨same, operands, picked, joined⟩ :=
      connective_eq_ok (outcome_conjunction options _) (Prod.ext isClause rfl)
    exact ⟨⟨operands, picked, (Clause.join_eq_ok joined).2.2.2⟩, congrArg Ledger.bound same⟩
  | disjunction places =>
    intro clause isClause
    obtain ⟨same, operands, picked, joined⟩ :=
      connective_eq_ok (outcome_disjunction options _) (Prod.ext isClause rfl)
    exact ⟨⟨operands, picked, (Clause.join_eq_ok joined).2.2.2⟩, congrArg Ledger.bound same⟩
  | negation place =>
    intro clause isClause
    obtain ⟨same, operand, isOperand, rfl⟩ := negation_eq_ok (Prod.ext isClause rfl)
    exact ⟨⟨[operand], .cons isOperand .nil, operand.arguments_negate⟩, congrArg Ledger.bound same⟩
  | prefixSearch field literal =>
    exact (bindsNext_prefixSearch named field literal).givesNext session
  | suffixSearch field literal =>
    exact (bindsNext_suffixSearch named field literal).givesNext session
  | compare comparator field value =>
    exact (bindsNext_compare named field comparator value).givesNext session
  | add clause => exact ⟨rfl, rfl⟩

/-- An action keeps every clause accounted for, whether it succeeds or fails midway. -/
theorem Sound.step (named : isName options.placeholder.toList = true)
    {session : Session Ledger Clause} (sound : Sound options session) {action : Action Clause}
    (own : ∀ clause, action ≠ .add clause) :
    Sound options (session.step (recording options) action).2 := by
  -- A compilation that fails leaves its entries behind, so the old clauses have to be kept for
  -- every outcome, not only for a new clause.
  have sameCalls : SameCalls options fun later =>
      later.IsNumbered options ∧ session.state.bound ⊆ later.bound :=
    recording_sameCalls fun ledger value ⟨numbered, grows⟩ =>
      ⟨numbered.enter value, List.Subset.trans grows (List.subset_append_left _ _)⟩
  obtain ⟨-, numbered, grows⟩ := sameCalls.step session ⟨sound.numbered, List.Subset.refl _⟩ action
  refine ⟨numbered, ?_⟩
  cases performed :
      Build.outcome (Session.perform (recording options) session.predicates action)
        session.state with
  | mk outcome later =>
    cases outcome with
    | error error =>
      rw [Session.step_of_error performed] at grows ⊢
      exact fun clause member => (sound.accounts clause member).mono grows
    | ok clause =>
      have built := perform_accounts named own sound.accounts performed
      rw [Session.step_of_ok performed] at grows ⊢
      intro other member
      rcases List.mem_append.mp member with old | new
      · exact (sound.accounts other old).mono grows
      · obtain rfl := List.mem_singleton.mp new
        exact built

/-- A run keeps every clause accounted for. -/
theorem Sound.run (named : isName options.placeholder.toList = true)
    {actions : List (Action Clause)} (own : ∀ clause, Action.add clause ∉ actions)
    {session : Session Ledger Clause} (sound : Sound options session) :
    Sound options (Session.run (recording options) session actions) := by
  induction actions generalizing session with
  | nil => exact sound
  | cons action rest inductionHypothesis =>
    refine inductionHypothesis (fun clause member => own clause (List.mem_cons_of_mem _ member)) ?_
    refine sound.step named fun clause isAdd => own clause ?_
    rw [isAdd]
    exact List.mem_cons_self

/-- A run is the same with and without a ledger. -/
theorem run_withoutLedger (session : Session Ledger Clause) (actions : List (Action Clause)) :
    Session.run (backend options) (withoutLedger session) actions =
      withoutLedger (Session.run (recording options) session actions) := by
  have sameCalls : SameCalls options fun _ => True := recording_sameCalls fun _ _ _ => trivial
  induction actions generalizing session with
  | nil => rfl
  | cons action rest inductionHypothesis =>
    obtain ⟨sameStep, -⟩ := sameCalls.step session trivial action
    rw [Session.run, Session.run, sameStep]
    exact inductionHypothesis _

/-- A run from the start, with a ledger of everything that is bound in it. -/
def recordedRun (options : Options) (actions : List (Action Clause)) : Session Ledger Clause :=
  Session.run (recording options) ⟨⟨0, []⟩, []⟩ actions

/-- Every argument of a session is bound once and never lost. The ledger of a run changes nothing in
it; it has an entry for every argument that is bound in the run, under a name of its own. Every
clause of the run binds no name twice, binds exactly the names that its text mentions, and binds
them to what the ledger has. Merging the arguments of clauses of the run, as often as each of them
is used, therefore gives all their arguments and no other.

Behind any run, the clause of a comparison or a search has the one argument that is entered for it
and mentions that alone; the clause of a connective has the merged arguments of its operands; the
clause of a compilation has what is entered meanwhile. -/
theorem arguments_bound_once (options : Options)
    (named : isName options.placeholder.toList = true) (actions : List (Action Clause))
    (own : ∀ clause, Action.add clause ∉ actions) :
    Session.run (backend options) ⟨0, []⟩ actions = withoutLedger (recordedRun options actions) ∧
    (recordedRun options actions).state.bound.length =
      (Session.run (backend options) ⟨0, []⟩ actions).state ∧
    ((recordedRun options actions).state.bound.map Prod.fst).Nodup ∧
    (∀ clause ∈ (Session.run (backend options) ⟨0, []⟩ actions).predicates,
      ∃ names, placeholders? clause.text = some names ∧
        (clause.arguments.map Prod.fst).Nodup ∧
        (∀ name, name ∈ names ↔ name ∈ clause.arguments.map Prod.fst) ∧
        ∀ argument ∈ clause.arguments, argument ∈ (recordedRun options actions).state.bound) ∧
    (∀ operands : List Clause,
      (∀ operand ∈ operands,
        operand ∈ (Session.run (backend options) ⟨0, []⟩ actions).predicates) →
      ∀ argument, argument ∈ Clause.mergeArguments operands ↔
        ∃ operand ∈ operands, argument ∈ operand.arguments) ∧
    ∀ action,
      Gives options (recordedRun options actions)
        (recordedRun options (actions ++ [action])).state.bound
        ((Session.run (backend options) ⟨0, []⟩ actions).step (backend options) action).1
        action := by
  have same : Session.run (backend options) ⟨0, []⟩ actions =
      withoutLedger (recordedRun options actions) :=
    run_withoutLedger ⟨⟨0, []⟩, []⟩ actions
  have started : Sound options ⟨⟨0, []⟩, []⟩ := ⟨.initial, by simp⟩
  have sound : Sound options (recordedRun options actions) := started.run named own
  rw [same]
  refine ⟨rfl, sound.numbered.length, sound.numbered.nodup, ?_, ?_, ?_⟩
  · intro clause member
    obtain ⟨names, mentions, areNames⟩ := (sound.accounts clause member).mentions
    exact ⟨names, mentions.placeholders?, (sound.accounts clause member).distinct, areNames,
      fun argument found => (sound.accounts clause member).bound found⟩
  · intro operands members argument
    exact Ledger.Accounts.mem_mergeArguments
      (fun operand isOperand => sound.accounts operand (members operand isOperand))
      sound.numbered.nodup
  · intro action
    have sameCalls : SameCalls options fun _ => True := recording_sameCalls fun _ _ _ => trivial
    obtain ⟨sameStep, -⟩ := sameCalls.step (recordedRun options actions) trivial action
    have longer : recordedRun options (actions ++ [action]) =
        ((recordedRun options actions).step (recording options) action).2 :=
      Session.run_append_singleton actions
    rw [sameStep, longer]
    exact step_gives named _ action

/-- A compilation that fails after its first argument, then a search that a negation and, twice, a
conjunction build on. -/
def failedAndShared : List (Action Clause) :=
  [.compileTree [[[.mk false (.compare ⟨⟨.text, "a", 0⟩, []⟩ "="
      (some ⟨⟨.boolean, "true", 2⟩, []⟩))], [.mk false .missing]]],
    .prefixSearch "b" "x*", .negation 0, .conjunction [0, 1, 0]]

theorem arguments_bound_once_shared :
    (∀ clause, Action.add clause ∉ failedAndShared) ∧
    (Session.run (backend {}) ⟨0, []⟩ failedAndShared).predicates.length = 3 ∧
    (recordedRun {} failedAndShared).state.bound.map Prod.fst = ["p1", "p2"] ∧
    (∀ clause ∈ (Session.run (backend {}) ⟨0, []⟩ failedAndShared).predicates,
      ∃ names, placeholders? clause.text = some names ∧
        (∀ name, name ∈ names ↔ name ∈ clause.arguments.map Prod.fst)) ∧
    (∀ argument,
      argument ∈ Clause.mergeArguments
          (Session.run (backend {}) ⟨0, []⟩ failedAndShared).predicates ↔
        ∃ operand ∈ (Session.run (backend {}) ⟨0, []⟩ failedAndShared).predicates,
          argument ∈ operand.arguments) ∧
    ∃ clause, ((Session.run (backend {}) ⟨0, []⟩ failedAndShared).step (backend {})
        (.suffixSearch "c" "*y")).1 = .ok clause ∧
      clause.arguments = [("p3", endPattern "*y")] ∧ placeholders? clause.text = some ["p3"] := by
  have own : ∀ clause, Action.add clause ∉ failedAndShared := by simp [failedAndShared]
  have next : Options.argumentName {} (recordedRun {} failedAndShared).state.count = "p3" := by
    decide
  obtain ⟨-, -, -, mentioned, merged, given⟩ :=
    arguments_bound_once {} (by decide) failedAndShared own
  obtain ⟨clause, isClause, areArguments, mentions, -⟩ := given (.suffixSearch "c" "*y")
  rw [next] at areArguments mentions
  refine ⟨own, rfl, by decide, ?_, merged _ fun _ member => member, clause, isClause, areArguments,
    mentions⟩
  intro clause member
  obtain ⟨names, arePlaceholders, -, areNames, -⟩ := mentioned clause member
  exact ⟨names, arePlaceholders, areNames⟩

end Sessions

end FilterQuery.Sql
