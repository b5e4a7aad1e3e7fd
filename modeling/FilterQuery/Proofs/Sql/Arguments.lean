import FilterQuery.Sql.Clause
import Mathlib.Data.List.Nodup

/-!
# Arguments by name

Merging arguments binds no name twice. A name that several lists bind is bound by the last of them,
so nothing is lost as long as the lists agree on their common names; lists without common names are
put one behind the other.
-/

namespace FilterQuery.Sql

namespace Arguments

/-- The names of arguments, in the order in which they were bound. -/
def names (arguments : Arguments) : List String := arguments.map Prod.fst

/-- The names with one more, which may be among them. -/
def addName (names : List String) (name : String) : List String :=
  if name ∈ names then names else names ++ [name]

theorem names_bind (arguments : Arguments) (name : String) (value : Datum) :
    (arguments.bind name value).names = addName arguments.names name := by
  induction arguments with
  | nil => rfl
  | cons argument rest inductionHypothesis =>
    obtain ⟨other, old⟩ := argument
    have head : names ((other, old) :: rest) = other :: names rest := rfl
    rw [bind, head]
    by_cases same : other = name
    · subst same
      simp [names, addName]
    · have tail : names ((other, old) :: bind rest name value) =
          other :: addName (names rest) name := by
        rw [← inductionHypothesis]
        rfl
      rw [if_neg same, tail]
      by_cases bound : name ∈ names rest
      · simp [addName, bound]
      · have different : name ≠ other := fun equal => same equal.symm
        simp [addName, bound, different]

theorem names_merge (first second : Arguments) :
    (first.merge second).names = second.names.foldl addName first.names := by
  unfold merge
  induction second generalizing first with
  | nil => rfl
  | cons argument rest inductionHypothesis =>
    rw [List.foldl_cons, inductionHypothesis, names_bind]
    rfl

theorem mem_addName {names : List String} {name other : String} :
    other ∈ addName names name ↔ other ∈ names ∨ other = name := by
  unfold addName
  split
  · next bound =>
    constructor
    · exact .inl
    · rintro (member | rfl)
      · exact member
      · exact bound
  · simp

theorem nodup_addName {names : List String} (distinct : names.Nodup) (name : String) :
    (addName names name).Nodup := by
  unfold addName
  split
  · exact distinct
  · next unbound =>
    rw [List.nodup_append]
    refine ⟨distinct, List.nodup_singleton name, ?_⟩
    rintro other member _ only same
    rw [List.mem_singleton] at only
    exact unbound (only ▸ same ▸ member)

theorem mem_foldl_addName {more names : List String} {name : String} :
    name ∈ more.foldl addName names ↔ name ∈ names ∨ name ∈ more := by
  induction more generalizing names with
  | nil => simp
  | cons head rest inductionHypothesis =>
    rw [List.foldl_cons, inductionHypothesis, mem_addName, List.mem_cons, or_assoc]

theorem nodup_foldl_addName {names : List String} (distinct : names.Nodup) (more : List String) :
    (more.foldl addName names).Nodup := by
  induction more generalizing names with
  | nil => exact distinct
  | cons head rest inductionHypothesis => exact inductionHypothesis (nodup_addName distinct head)

/-- An argument of a list in which a name was bound is that name or was there before. -/
theorem mem_of_mem_bind {arguments : Arguments} {name : String} {value : Datum}
    {argument : String × Datum} (member : argument ∈ arguments.bind name value) :
    argument ∈ arguments ∨ argument = (name, value) := by
  induction arguments with
  | nil => exact .inr (List.mem_singleton.mp member)
  | cons head rest inductionHypothesis =>
    obtain ⟨other, old⟩ := head
    rw [bind] at member
    split at member
    · rcases List.mem_cons.mp member with isNew | old
      · exact .inr isNew
      · exact .inl (List.mem_cons_of_mem _ old)
    · rcases List.mem_cons.mp member with isHead | tail
      · exact .inl (isHead ▸ List.mem_cons_self)
      · exact (inductionHypothesis tail).imp_left (List.mem_cons_of_mem _)

theorem merge_cons (first rest : Arguments) (name : String) (value : Datum) :
    first.merge ((name, value) :: rest) = (first.bind name value).merge rest := rfl

theorem mem_of_mem_merge {first second : Arguments} {argument : String × Datum}
    (member : argument ∈ first.merge second) : argument ∈ first ∨ argument ∈ second := by
  induction second generalizing first with
  | nil => exact .inl member
  | cons head rest inductionHypothesis =>
    rcases inductionHypothesis member with before | behind
    · rcases mem_of_mem_bind before with old | rfl
      · exact .inl old
      · exact .inr List.mem_cons_self
    · exact .inr (List.mem_cons_of_mem _ behind)

/-- A name that is not bound yet is bound behind the others. -/
theorem bind_of_not_mem {arguments : Arguments} {name : String} (fresh : name ∉ arguments.names)
    (value : Datum) : arguments.bind name value = arguments ++ [(name, value)] := by
  induction arguments with
  | nil => rfl
  | cons head rest inductionHypothesis =>
    obtain ⟨other, old⟩ := head
    have apart : name ≠ other ∧ name ∉ names rest := by simpa [names] using fresh
    rw [bind, if_neg (Ne.symm apart.1), inductionHypothesis apart.2, List.cons_append]

/-- Lists without common names are put one behind the other. -/
theorem merge_of_nodup {first second : Arguments} (distinct : (first ++ second).names.Nodup) :
    first.merge second = first ++ second := by
  induction second generalizing first with
  | nil => exact (List.append_nil first).symm
  | cons head rest inductionHypothesis =>
    obtain ⟨name, value⟩ := head
    have fresh : name ∉ first.names := by
      intro bound
      rw [names, List.map_append, List.nodup_append] at distinct
      exact distinct.2.2 name bound name List.mem_cons_self rfl
    have regrouped : first ++ (name, value) :: rest = first ++ [(name, value)] ++ rest := by simp
    rw [merge_cons, bind_of_not_mem fresh, regrouped]
    rw [regrouped] at distinct
    exact inductionHypothesis distinct

/-- Where no name is bound twice, a name has one value. -/
theorem eq_of_mem {arguments : Arguments} (distinct : arguments.names.Nodup)
    {first second : String × Datum} (here : first ∈ arguments) (there : second ∈ arguments)
    (sameName : first.1 = second.1) : first = second :=
  List.inj_on_of_nodup_map distinct here there sameName

end Arguments

namespace Clause

variable {clauses : List Clause}

theorem arguments_negate (clause : Clause) :
    clause.negate.arguments = mergeArguments [clause] := rfl

/-- The names of merged arguments depend on the names alone. -/
theorem names_mergeArguments (clauses : List Clause) :
    (mergeArguments clauses).names =
      (clauses.flatMap (·.arguments.names)).foldl Arguments.addName [] := by
  have merged : ∀ start : Arguments,
      (clauses.foldl (fun arguments clause => arguments.merge clause.arguments) start).names =
        (clauses.flatMap (·.arguments.names)).foldl Arguments.addName start.names := by
    induction clauses with
    | nil => exact fun _ => rfl
    | cons clause rest inductionHypothesis =>
      intro start
      rw [List.foldl_cons, inductionHypothesis, Arguments.names_merge, List.flatMap_cons,
        List.foldl_append]
  exact merged []

/-- Merged arguments bind no name twice. -/
theorem nodup_mergeArguments (clauses : List Clause) : (mergeArguments clauses).names.Nodup := by
  rw [names_mergeArguments]
  exact Arguments.nodup_foldl_addName List.nodup_nil _

/-- Merged arguments bind the names of all the clauses. -/
theorem mem_names_mergeArguments {name : String} :
    name ∈ (mergeArguments clauses).names ↔ ∃ clause ∈ clauses, name ∈ clause.arguments.names := by
  rw [names_mergeArguments, Arguments.mem_foldl_addName, List.mem_flatMap]
  simp

/-- Merged arguments come from the clauses. -/
theorem exists_of_mem_mergeArguments {argument : String × Datum}
    (member : argument ∈ mergeArguments clauses) :
    ∃ clause ∈ clauses, argument ∈ clause.arguments := by
  have origin : ∀ start : Arguments,
      argument ∈ clauses.foldl (fun arguments clause => arguments.merge clause.arguments) start →
      argument ∈ start ∨ ∃ clause ∈ clauses, argument ∈ clause.arguments := by
    clear member
    induction clauses with
    | nil => exact fun start found => .inl found
    | cons clause rest inductionHypothesis =>
      intro start found
      rcases inductionHypothesis _ found with merged | ⟨other, isOther, found⟩
      · rcases Arguments.mem_of_mem_merge merged with old | new
        · exact .inl old
        · exact .inr ⟨clause, List.mem_cons_self, new⟩
      · exact .inr ⟨other, List.mem_cons_of_mem _ isOther, found⟩
  simpa using origin [] member

/-- Clauses without common names keep their arguments, one clause behind the other. -/
theorem mergeArguments_of_nodup
    (distinct : (Arguments.names (clauses.flatMap Clause.arguments)).Nodup) :
    mergeArguments clauses = clauses.flatMap Clause.arguments := by
  -- The fold starts from arguments that are merged already, so the statement is about any start.
  have behind : ∀ start : Arguments,
      (start ++ clauses.flatMap Clause.arguments).names.Nodup →
      clauses.foldl (fun arguments clause => arguments.merge clause.arguments) start =
        start ++ clauses.flatMap Clause.arguments := by
    clear distinct
    induction clauses with
    | nil => exact fun start _ => (List.append_nil start).symm
    | cons clause rest inductionHypothesis =>
      intro start distinct
      rw [List.flatMap_cons, ← List.append_assoc] at distinct ⊢
      have head : (start ++ clause.arguments).names.Nodup := by
        rw [Arguments.names, List.map_append] at distinct
        exact distinct.of_append_left
      rw [List.foldl_cons, Arguments.merge_of_nodup head, inductionHypothesis _ distinct]
  exact behind [] distinct

end Clause

end FilterQuery.Sql
