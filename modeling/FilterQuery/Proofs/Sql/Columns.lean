import FilterQuery.Proofs.Compile.Renaming
import FilterQuery.Proofs.Sql.Precedence

/-!
# Columns by field

The options of the backend of clauses name columns by field. That is a renaming of the filter's
fields and nothing else: the clause of a filter is the clause, without named columns, of the filter
whose fields are replaced by their columns.

The whole path of a field is looked up, once. What a column is called is not looked up again, and
neither are the values, whatever they spell.
-/

namespace FilterQuery

/-- The pieces of a text between separators are the text. -/
theorem intercalate_splitList (separator : Char) (text : List Char) :
    [separator].intercalate (splitList separator text) = text := by
  fun_induction splitList separator text with
  | case1 => rfl
  | case2 rest inductionHypothesis =>
    rw [List.intercalate_cons_of_ne_nil (Sql.splitList_ne_nil separator rest),
      inductionHypothesis]
    rfl
  | case3 c rest _ split => exact absurd split (Sql.splitList_ne_nil separator rest)
  | case4 c rest _ piece pieces split inductionHypothesis =>
    rw [split] at inductionHypothesis
    cases pieces with
    | nil => simpa using inductionHypothesis
    | cons next others =>
      rw [List.intercalate_cons_cons] at inductionHypothesis ⊢
      rw [← inductionHypothesis]
      rfl

/-- The member of a path spells the path. -/
theorem Member.text_ofPath (path : String) : (Member.ofPath path).text = path := by
  have spelled : ".".intercalate (splitText '.' path) = path := by
    apply String.ext
    have pieces : (splitText '.' path).map String.toList = splitList '.' path.toList := by
      simp [splitText, Function.comp_def]
    rw [String.toList_intercalate, pieces]
    exact intercalate_splitList '.' path.toList
  unfold Member.ofPath
  split
  · next empty =>
    rw [empty] at spelled
    exact spelled
  · next head fields pieces =>
    rw [pieces] at spelled
    simpa [Member.text, Member.parts, Function.comp_def] using spelled

end FilterQuery

namespace FilterQuery.Sql

/-- Fields with a column give way to it. -/
def columnNames (columns : List (String × String)) : Renaming where
  member field := ((columns.lookup field.text).map Member.ofPath).getD field
  path field := (columns.lookup field).getD field
  text_member field := by
    cases columns.lookup field.text with
    | none => rfl
    | some column => exact Member.text_ofPath column

/-- A backend with named columns is the backend without them, on other fields. -/
theorem backend_eq_onFields (columns : List (String × String)) (placeholder : String) :
    backend ⟨columns, placeholder⟩ =
      (backend ⟨[], placeholder⟩).onFields (columnNames columns).path := rfl

/-- Naming columns is renaming fields. A filter has a clause, with the same arguments bound, if and
only if the filter with columns for its fields has it where no columns are named; otherwise both
fail alike, with the field by its other name. The leaves of the two filters have the same
comparators and values, and each field has been looked up once, as a whole. -/
theorem clause_of_columns (columns : List (String × String)) (placeholder : String)
    (expression : Expression) (before : Counter) :
    (∀ clause after,
      Build.outcome (compileTree (backend ⟨columns, placeholder⟩) expression) before =
          (.ok clause, after) ↔
        Build.outcome (compileTree (backend ⟨[], placeholder⟩)
          (Expression.renameFields (columnNames columns) expression)) before =
            (.ok clause, after)) ∧
    (∀ error after,
      Build.outcome (compileTree (backend ⟨columns, placeholder⟩) expression) before =
          (.error error, after) →
        Build.outcome (compileTree (backend ⟨[], placeholder⟩)
          (Expression.renameFields (columnNames columns) expression)) before =
            (.error (error.renameField (columnNames columns).path), after)) ∧
    Expression.leaves .filter (Expression.renameFields (columnNames columns) expression) =
      (Expression.leaves .filter expression).map fun leaf =>
        { leaf with field := (columns.lookup leaf.field).getD leaf.field } := by
  have compiled := compileTree_renameFields (backend ⟨[], placeholder⟩) (columnNames columns)
    expression
  rw [← backend_eq_onFields] at compiled
  refine ⟨fun clause after => ?_, fun error after failed => ?_, ?_⟩
  · rw [compiled, Build.outcome_adapt_eq_ok_iff]
  · rw [compiled, Build.outcome_adapt, failed]
    rfl
  · exact Expression.leaves_renameFields (columnNames columns) expression

/-- Columns that swap two fields: in `a : (a) a.b = 1` the field `a` is renamed once, while the value
`a` and the field `a.b` are left alone. -/
theorem clause_of_columns_swapped :
    Build.outcome (compileTree (backend ⟨[("a", "b"), ("b", "a")], "p"⟩)
      [[[.mk false (.compareEach (.ofPath "a") ":" [[[.mk false (.bare (.ofPath "a"))]]])],
        [.mk false (.compare (.ofPath "a.b") "=" (some (.ofPath "1")))]]]) 0 =
      (.ok ⟨"@p1 = ANY(\"b\") AND \"a\".\"b\" = @p2",
        [("p1", .string "string" "a"), ("p2", .string "string" "1")], .conjunction⟩, 2) := by
  obtain ⟨compiles, -, -⟩ := clause_of_columns [("a", "b"), ("b", "a")] "p"
    [[[.mk false (.compareEach (.ofPath "a") ":" [[[.mk false (.bare (.ofPath "a"))]]])],
      [.mk false (.compare (.ofPath "a.b") "=" (some (.ofPath "1")))]]] 0
  rw [compiles]
  rfl

end FilterQuery.Sql
