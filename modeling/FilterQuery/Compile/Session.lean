import FilterQuery.Compile.Event

/-!
# Sessions

A session uses one backend for many steps. Every step that succeeds adds a predicate, and later
steps refer to the predicates of earlier ones by their places. A step that fails adds nothing, but
what it did to the state of the backend stays.
-/

namespace FilterQuery

/-- One step of a session. -/
inductive Action (Predicate : Type) where
  | compileText (text : String)
  | compileTree (expression : Expression)
  | conjunction (places : List Nat)
  | disjunction (places : List Nat)
  | negation (place : Nat)
  | prefixSearch (field literal : String)
  | suffixSearch (field literal : String)
  | compare (comparator : Comparator) (field : String) (value : Value)
  | add (predicate : Predicate)

/-- Why a step fails. -/
inductive SessionError (Failure : Type) where
  | compile (error : CompileError Failure)
  | build (failure : Failure)
  | noPredicate (place : Nat)

/-- The state of the backend and the predicates so far. -/
structure Session (State Predicate : Type) where
  state : State
  predicates : List Predicate

namespace Session

variable {State Failure Predicate : Type}

/-- The predicate at a place. -/
def pick (predicates : List Predicate) (place : Nat) :
    Build State (SessionError Failure) Predicate :=
  match predicates[place]? with
  | some predicate => pure predicate
  | none => throw (.noPredicate place)

/-- The predicates at several places. -/
def pickAll (predicates : List Predicate) : List Nat →
    Build State (SessionError Failure) (List Predicate)
  | [] => pure []
  | place :: rest => do
    let predicate ← pick predicates place
    let others ← pickAll predicates rest
    pure (predicate :: others)

/-- The predicate that an action builds. -/
def perform (backend : Backend State Failure Predicate) (predicates : List Predicate) :
    Action Predicate → Build State (SessionError Failure) Predicate
  | .compileText text => ExceptT.adapt SessionError.compile (FilterQuery.compileText backend text)
  | .compileTree expression =>
    ExceptT.adapt SessionError.compile (FilterQuery.compileTree backend expression)
  | .conjunction places => do
    let operands ← pickAll predicates places
    ExceptT.adapt SessionError.build (backend.conjunction operands)
  | .disjunction places => do
    let operands ← pickAll predicates places
    ExceptT.adapt SessionError.build (backend.disjunction operands)
  | .negation place => do
    let operand ← pick predicates place
    ExceptT.adapt SessionError.build (backend.negation operand)
  | .prefixSearch field literal =>
    ExceptT.adapt SessionError.build (backend.prefixSearch field literal)
  | .suffixSearch field literal =>
    ExceptT.adapt SessionError.build (backend.suffixSearch field literal)
  | .compare comparator field value =>
    ExceptT.adapt SessionError.build (backend.compare comparator field value)
  | .add predicate => pure predicate

/-- Performs an action. -/
def step (backend : Backend State Failure Predicate) (session : Session State Predicate)
    (action : Action Predicate) :
    Except (SessionError Failure) Predicate × Session State Predicate :=
  match (perform backend session.predicates action).run.run session.state with
  | (.ok predicate, state) => (.ok predicate, ⟨state, session.predicates ++ [predicate]⟩)
  | (.error error, state) => (.error error, ⟨state, session.predicates⟩)

/-- What a compilation reports. Other actions are none. -/
def compilationEvents (describe : Failure → String) (action : Action Predicate)
    (outcome : Except (CompileError Failure) Predicate) : List Event :=
  match action with
  | .compileText text => textEvents describe text outcome
  | .compileTree expression => treeEvents describe expression outcome
  | _ => []

/-- What an action reports when it is done, besides what the backend reports meanwhile. -/
def report (describe : Failure → String) (action : Action Predicate)
    (outcome : Except (SessionError Failure) Predicate) : List Event :=
  match outcome with
  | .ok predicate => compilationEvents describe action (.ok predicate)
  | .error (.compile error) => compilationEvents describe action (.error error)
  | .error _ => []

/-- The session after several actions. -/
def run (backend : Backend State Failure Predicate) (session : Session State Predicate) :
    List (Action Predicate) → Session State Predicate
  | [] => session
  | action :: rest => run backend (session.step backend action).2 rest

end Session

end FilterQuery
