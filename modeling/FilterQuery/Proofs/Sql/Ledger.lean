import FilterQuery.Proofs.Compile.Lockstep
import FilterQuery.Proofs.Sql.Arguments
import FilterQuery.Proofs.Sql.Placeholders

/-!
# A ledger of bound arguments

The backend of clauses keeps no more than the number of arguments that it has bound. `recording`
makes the same calls and enters what they bind into a ledger, so that a clause can be held against
everything that was bound before it. `withLedger` says that the ledger changes no outcome, and
carries any property of ledgers that every new entry keeps through a compilation, whether that
succeeds or fails.
-/

namespace FilterQuery.Sql

/-- The number of arguments that have been bound, which is all that the backend keeps, and the
arguments in the order in which they were bound. -/
structure Ledger where
  count : Counter
  bound : Arguments

/-- The next argument, bound to a value. -/
def Options.entry (options : Options) (value : Datum) (count : Counter) : Arguments :=
  [(options.argumentName count, value)]

/-- The ledger after one more argument. -/
def Ledger.enter (options : Options) (value : Datum) (ledger : Ledger) : Ledger :=
  ⟨ledger.count + 1, ledger.bound ++ options.entry value ledger.count⟩

/-- A call that enters what it binds, which may depend on the number of arguments before it. -/
def Ledger.record (entries : Counter → Arguments) (call : Build Counter NoOperands Clause) :
    Build Ledger NoOperands Clause :=
  ExceptT.mk fun ledger =>
    ((call.outcome ledger.count).1,
      ⟨(call.outcome ledger.count).2, ledger.bound ++ entries ledger.count⟩)

theorem Ledger.outcome_record (entries : Counter → Arguments)
    (call : Build Counter NoOperands Clause) (ledger : Ledger) :
    Build.outcome (Ledger.record entries call) ledger =
      ((call.outcome ledger.count).1,
        ⟨(call.outcome ledger.count).2, ledger.bound ++ entries ledger.count⟩) := rfl

/-- The pattern of the texts that a literal with a wildcard at its end asks for. -/
def startPattern (literal : String) : Datum :=
  .string "string" (escapeLike (prefixPattern literal) ++ "%")

/-- The pattern of the texts that a literal with a wildcard at its start asks for. -/
def endPattern (literal : String) : Datum :=
  .string "string" ("%" ++ escapeLike (suffixPattern literal))

/-- What the argument of a comparison is bound to: the value, or the pattern of a search. -/
def boundTo (comparator : Comparator) (value : Value) : Datum :=
  match comparator, value.wildcardForm with
  | .equal, .startsWith literal => startPattern literal
  | .equal, .endsWith literal => endPattern literal
  | _, _ => value.datum

/-- The backend of clauses with a ledger. Connectives bind nothing; every other call binds the next
argument. -/
def recording (options : Options) : Backend Ledger NoOperands Clause where
  name := (backend options).name
  conjunction operands := Ledger.record (fun _ => []) ((backend options).conjunction operands)
  disjunction operands := Ledger.record (fun _ => []) ((backend options).disjunction operands)
  negation operand := Ledger.record (fun _ => []) ((backend options).negation operand)
  prefixSearch field literal :=
    Ledger.record (options.entry (startPattern literal))
      ((backend options).prefixSearch field literal)
  suffixSearch field literal :=
    Ledger.record (options.entry (endPattern literal))
      ((backend options).suffixSearch field literal)
  compare comparator field value :=
    Ledger.record (options.entry value.datum)
      ((backend options).compare comparator field value)

/-- A call that binds nothing leaves the ledger alone. -/
theorem Ledger.outcome_record_nothing (call : Build Counter NoOperands Clause)
    (bindsNothing : ∀ count, (call.outcome count).2 = count) (ledger : Ledger) :
    Build.outcome (Ledger.record (fun _ => []) call) ledger =
      ((call.outcome ledger.count).1, ledger) := by
  rw [Ledger.outcome_record, bindsNothing, List.append_nil]

section Connectives

variable (options : Options) (ledger : Ledger)

theorem outcome_conjunction (operands : List Clause) :
    Build.outcome ((recording options).conjunction operands) ledger =
      (Clause.join "AND" .conjunction operands, ledger) :=
  Ledger.outcome_record_nothing _ (fun _ => rfl) ledger

theorem outcome_disjunction (operands : List Clause) :
    Build.outcome ((recording options).disjunction operands) ledger =
      (Clause.join "OR" .disjunction operands, ledger) :=
  Ledger.outcome_record_nothing _ (fun _ => rfl) ledger

theorem outcome_negation (operand : Clause) :
    Build.outcome ((recording options).negation operand) ledger = (.ok operand.negate, ledger) :=
  Ledger.outcome_record_nothing _ (fun _ => rfl) ledger

end Connectives

section Erasure

variable {kept : Ledger → Prop}

/-- A run of the backend beside a run with a ledger: they have bound the same number of arguments,
and the ledger has a certain property. -/
def withLedger (Error : Type) (kept : Ledger → Prop) :
    Correspondence Counter Ledger Error Error where
  states count ledger := ledger.count = count ∧ kept ledger
  errors := Eq

/-- Both runs have the same outcome, and the property is kept. -/
theorem outcome_withLedger {Error Result : Type} {plain : Build Counter Error Result}
    {recorded : Build Ledger Error Result}
    (steps : (withLedger Error kept).Steps Eq plain recorded) (ledger : Ledger)
    (holds : kept ledger) :
    plain.outcome ledger.count =
        ((recorded.outcome ledger).1, (recorded.outcome ledger).2.count) ∧
      kept (recorded.outcome ledger).2 := by
  -- Neither run may fail alone, so both end with equal results or with equal errors.
  have outcomes := steps ledger.count ledger ⟨rfl, holds⟩
  generalize plain.outcome ledger.count = first at outcomes ⊢
  generalize recorded.outcome ledger = second at outcomes ⊢
  cases outcomes with
  | ok related states =>
    obtain ⟨rfl, after⟩ := states
    exact ⟨by rw [related], after⟩
  | error related states =>
    obtain ⟨rfl, after⟩ := states
    have same : _ = _ := related
    exact ⟨by rw [same], after⟩
  | failedAlone allowed => exact allowed.elim

/-- What succeeds without a ledger succeeds with one. -/
theorem exists_recorded {Error Result : Type} {plain : Build Counter Error Result}
    {recorded : Build Ledger Error Result}
    (steps : (withLedger Error fun _ => True).Steps Eq plain recorded) {count after : Counter}
    {result : Result} (built : plain.outcome count = (.ok result, after)) (bound : Arguments) :
    ∃ ledger, recorded.outcome ⟨count, bound⟩ = (.ok result, ledger) ∧ ledger.count = after := by
  obtain ⟨same, -⟩ := outcome_withLedger steps ⟨count, bound⟩ trivial
  rw [built, Prod.mk.injEq] at same
  exact ⟨_, Prod.ext same.1.symm rfl, same.2.symm⟩

/-- Renaming failures on both sides changes nothing. -/
theorem adapt_withLedger {Failure Error Result : Type} {plain : Build Counter Failure Result}
    {recorded : Build Ledger Failure Result}
    (steps : (withLedger Failure kept).Steps Eq plain recorded) (wrap : Failure → Error) :
    (withLedger Error kept).Steps Eq (ExceptT.adapt wrap plain : Build Counter Error Result)
      (ExceptT.adapt wrap recorded : Build Ledger Error Result) := by
  rintro _ ledger ⟨rfl, holds⟩
  obtain ⟨same, after⟩ := outcome_withLedger steps ledger holds
  rw [Build.outcome_adapt, Build.outcome_adapt, same]
  generalize recorded.outcome ledger = outcome at after ⊢
  rcases outcome with ⟨failure | result, ledger⟩
  · exact .error rfl ⟨rfl, after⟩
  · exact .ok rfl ⟨rfl, after⟩

theorem record_steps {entries : Counter → Arguments} {call : Build Counter NoOperands Clause}
    (keeps : ∀ ledger, kept ledger →
      kept ⟨(call.outcome ledger.count).2, ledger.bound ++ entries ledger.count⟩) :
    (withLedger NoOperands kept).Steps Eq call (Ledger.record entries call) := by
  rintro _ ledger ⟨rfl, holds⟩
  have after := keeps ledger holds
  rw [Ledger.outcome_record]
  generalize call.outcome ledger.count = outcome at after ⊢
  rcases outcome with ⟨failure | clause, count⟩
  · exact .error rfl ⟨rfl, after⟩
  · exact .ok rfl ⟨rfl, after⟩

/-- A call that binds nothing keeps every property of the ledger. -/
theorem record_nothing_steps (call : Build Counter NoOperands Clause)
    (bindsNothing : ∀ count, (call.outcome count).2 = count) :
    (withLedger NoOperands kept).Steps Eq call (Ledger.record (fun _ => []) call) := by
  refine record_steps fun ledger holds => ?_
  rwa [bindsNothing, List.append_nil]

variable {options : Options}

/-- A call that binds the next argument keeps what every new entry keeps. -/
theorem record_entry_steps
    (enters : ∀ ledger value, kept ledger → kept (ledger.enter options value))
    (call : Build Counter NoOperands Clause) (value : Datum)
    (bindsNext : ∀ count, (call.outcome count).2 = count + 1) :
    (withLedger NoOperands kept).Steps Eq call (Ledger.record (options.entry value) call) := by
  refine record_steps fun ledger holds => ?_
  rw [bindsNext]
  exact enters ledger value holds

/-- What the backend with a ledger does is what the backend does, as long as entering one more
argument keeps the property. -/
structure SameCalls (options : Options) (kept : Ledger → Prop) : Prop where
  conjunction : ∀ operands, (withLedger NoOperands kept).Steps Eq
    ((backend options).conjunction operands) ((recording options).conjunction operands)
  disjunction : ∀ operands, (withLedger NoOperands kept).Steps Eq
    ((backend options).disjunction operands) ((recording options).disjunction operands)
  negation : ∀ operand, (withLedger NoOperands kept).Steps Eq
    ((backend options).negation operand) ((recording options).negation operand)
  prefixSearch : ∀ field literal, (withLedger NoOperands kept).Steps Eq
    ((backend options).prefixSearch field literal) ((recording options).prefixSearch field literal)
  suffixSearch : ∀ field literal, (withLedger NoOperands kept).Steps Eq
    ((backend options).suffixSearch field literal) ((recording options).suffixSearch field literal)
  compare : ∀ comparator field value, (withLedger NoOperands kept).Steps Eq
    ((backend options).compare comparator field value)
    ((recording options).compare comparator field value)

theorem recording_sameCalls
    (enters : ∀ ledger value, kept ledger → kept (ledger.enter options value)) :
    SameCalls options kept where
  conjunction _ := record_nothing_steps _ fun _ => rfl
  disjunction _ := record_nothing_steps _ fun _ => rfl
  negation _ := record_nothing_steps _ fun _ => rfl
  prefixSearch _ literal := record_entry_steps enters _ (startPattern literal) fun _ => rfl
  suffixSearch _ literal := record_entry_steps enters _ (endPattern literal) fun _ => rfl
  compare _ _ value := record_entry_steps enters _ value.datum fun _ => rfl

theorem SameCalls.relate (same : SameCalls options kept) (comparator : Comparator) (field : String)
    (value : Value) :
    (withLedger NoOperands kept).Steps Eq ((backend options).relate comparator field value)
      ((recording options).relate comparator field value) := by
  unfold Backend.relate
  split
  · exact same.prefixSearch field _
  · exact same.suffixSearch field _
  · exact same.compare _ field value

/-- Compilations with and without a ledger go through the same steps. -/
theorem SameCalls.operations (same : SameCalls options kept) :
    (withLedger (CompileError NoOperands) kept).Operations Eq (backend options)
      (recording options) where
  conjunction related := by
    rw [List.forall₂_eq_eq_eq] at related
    exact related ▸ adapt_withLedger (same.conjunction _) _
  disjunction related := by
    rw [List.forall₂_eq_eq_eq] at related
    exact related ▸ adapt_withLedger (same.disjunction _) _
  negation related := related ▸ adapt_withLedger (same.negation _) _
  relation comparator field value := adapt_withLedger (same.relate comparator field value) _
  error _ := rfl

end Erasure

end FilterQuery.Sql
