import FilterQuery.Proofs.Compile.Distribution
import FilterQuery.Proofs.Sql.Like
import FilterQuery.Proofs.Sql.Precedence

/-!
# What clauses say about texts

The truth of a clause for a row of texts: its text is read as the database reads it, its arguments
are put in, equality is that of texts and `LIKE` matches patterns. How texts are ordered depends on
the collation of the column, so nothing is said about it.

An equality with a text holds of the columns that the text asks for, also where the text has
characters with a meaning of their own in patterns.
-/

namespace FilterQuery.Sql

/-- The sign of a relation. -/
def Relation.sign : Relation → String
  | .equal => "="
  | .notEqual => "<>"
  | .less => "<"
  | .lessEqual => "<="
  | .greater => ">"
  | .greaterEqual => ">="
  | .like => "LIKE"

/-- The truth of a relation between two texts. -/
def Relation.truth? : Relation → (left right : String) → Option Bool
  | .equal, left, right => some (left == right)
  | .notEqual, left, right => some (left != right)
  | .like, left, right => like? right left
  | .less, _, _ | .lessEqual, _, _ | .greater, _, _ | .greaterEqual, _, _ => none

/-- The texts of the columns of a row, by path. -/
abbrev Row := List String → Option String

/-- The text of an operand. -/
def Operand.text? (row : Row) (arguments : Arguments) : Operand → Option String
  | .column path => row path
  | .argument name =>
    match arguments.lookup name with
    | some (.string _ text) => some text
    | _ => none
  | .anyOf _ => none

/-- The truth of a comparison. -/
def Atom.truth? (row : Row) (arguments : Arguments) (atom : Atom) : Option Bool := do
  let left ← atom.left.text? row arguments
  let right ← atom.right.text? row arguments
  atom.relation.truth? left right

/-- The truth of a condition, if all its comparisons have one. -/
def Meaning.truth? (truth : Atom → Option Bool) (meaning : Meaning) : Option Bool :=
  if meaning.atoms.all fun atom => (truth atom).isSome then
    some (meaning.holds fun atom => truth atom == some true)
  else none

/-- The truth of a clause. -/
def Clause.truth? (row : Row) (clause : Clause) : Option Bool := do
  let formula ← readCondition? clause.text
  formula.meaning.truth? (Atom.truth? row clause.arguments)

theorem Meaning.truth?_ofAtom (truth : Atom → Option Bool) (atom : Atom) :
    (Meaning.ofAtom atom).truth? truth = truth atom := by
  cases verdict : truth atom with
  | none => simp [Meaning.truth?, Meaning.ofAtom, verdict]
  | some found => cases found <;> simp [Meaning.truth?, Meaning.ofAtom, verdict]

/-- A clause that relates the column of a field to a text, which is its argument. Where the names of
arguments are names, the truth of the clause is that of the relation. -/
structure RelatesText (options : Options) (field : String) (count : Counter) (relation : Relation)
    (bound : String) (clause : Clause) : Prop where
  text : clause.text = options.column field ++ " " ++ relation.sign ++ " " ++
    ("@" ++ options.argumentName count)
  arguments : clause.arguments = [(options.argumentName count, .string "string" bound)]
  truth : isName options.placeholder.toList = true → ∀ (row : Row) (column : String),
    row (options.path field) = some column →
    clause.truth? row = relation.truth? column bound

/-- What a clause is read as decides its truth. -/
theorem RelatesText.of_reads {options : Options} {field : String} {count : Counter}
    {relation : Relation} {bound : String} {clause : Clause}
    (text : clause.text = options.column field ++ " " ++ relation.sign ++ " " ++
      ("@" ++ options.argumentName count))
    (arguments : clause.arguments = [(options.argumentName count, .string "string" bound)])
    (reads : isName options.placeholder.toList = true → ReadsText clause.strength clause.text
      (.ofAtom ⟨.column (options.path field), relation, .argument (options.argumentName count)⟩)) :
    RelatesText options field count relation bound clause := by
  refine ⟨text, arguments, ?_⟩
  intro named row column isColumn
  obtain ⟨formula, isFormula, isMeaning⟩ := (reads named).readCondition?
  rw [Clause.truth?, isFormula, Option.bind_eq_bind, Option.bind_some, isMeaning,
    Meaning.truth?_ofAtom, arguments]
  simp [Atom.truth?, Operand.text?, isColumn]

/-- A search builds a comparison with a pattern. -/
theorem relatesText_like (options : Options) (field pattern : String) (count : Counter) :
    ∃ clause,
      Build.outcome (relateColumn options field (.string "string" pattern) .like likeText) count =
        (.ok clause, count + 1) ∧
      RelatesText options field count .like pattern clause := by
  refine ⟨_, rfl, .of_reads (likeText_eq _ _) rfl ?_⟩
  exact fun named => readsText_like named field count

/-- A search for a start builds the pattern of the texts with that start. -/
theorem prefixSearch_decides (options : Options) (field literal : String) (count : Counter) :
    ∃ clause pattern,
      Build.outcome ((backend options).prefixSearch field literal) count =
        (.ok clause, count + 1) ∧
      RelatesText options field count .like pattern clause ∧
      ∀ column, Decides (like? pattern column) (∃ rest, column = prefixPattern literal ++ rest) := by
  obtain ⟨clause, built, relates⟩ := relatesText_like options field
    (escapeLike (prefixPattern literal) ++ "%") count
  exact ⟨clause, _, built, relates, decides_like_start _⟩

/-- A search for an end builds the pattern of the texts with that end. -/
theorem suffixSearch_decides (options : Options) (field literal : String) (count : Counter) :
    ∃ clause pattern,
      Build.outcome ((backend options).suffixSearch field literal) count =
        (.ok clause, count + 1) ∧
      RelatesText options field count .like pattern clause ∧
      ∀ column, Decides (like? pattern column) (∃ rest, column = rest ++ suffixPattern literal) := by
  obtain ⟨clause, built, relates⟩ := relatesText_like options field
    ("%" ++ escapeLike (suffixPattern literal)) count
  exact ⟨clause, _, built, relates, decides_like_end _⟩

/-- An equality builds a comparison with a text. -/
theorem relatesText_equal (options : Options) (field : String) {value : Value} {text : String}
    (isText : value.datum = .string "string" text) (count : Counter) :
    ∃ clause,
      Build.outcome ((backend options).compare .equal field value) count =
        (.ok clause, count + 1) ∧
      RelatesText options field count .equal text clause := by
  refine ⟨_, rfl, .of_reads rfl (by rw [isText]; rfl) ?_⟩
  exact fun named => readsText_comparison named field count .equal

/-- An equality with a text relates the column to a text that the asked-for columns, and no others,
are in that relation to. -/
theorem relate_decides (options : Options) (field : String) {value : Value} {wanted : String}
    (isText : value.content = .string wanted ∨ value.content = .text wanted) (count : Counter) :
    ∃ clause relation bound,
      Build.outcome ((backend options).relate .equal field value) count =
        (.ok clause, count + 1) ∧
      RelatesText options field count relation bound clause ∧
      ∀ column, Decides (relation.truth? column bound) (AskedFor wanted column) := by
  have isForm : value.wildcardForm = .ofText wanted := by
    rcases isText with content | content <;> rw [Value.wildcardForm, content]
  have isDatum : value.datum = .string "string" wanted := by
    rcases isText with content | content <;> rw [Value.datum, content]
  simp only [askedFor_iff_admits, Backend.relate, isForm]
  cases WildcardForm.ofText wanted with
  | startsWith literal =>
    obtain ⟨clause, pattern, searches⟩ := prefixSearch_decides options field literal count
    exact ⟨clause, .like, pattern, searches⟩
  | endsWith literal =>
    obtain ⟨clause, pattern, searches⟩ := suffixSearch_decides options field literal count
    exact ⟨clause, .like, pattern, searches⟩
  | plain =>
    obtain ⟨clause, built, relates⟩ := relatesText_equal options field isDatum count
    exact ⟨clause, _, _, built, relates, fun column => decides_some beq_iff_eq⟩

/-- A filter of one comparison builds what the comparison builds. -/
theorem outcome_compileTree_compare {options : Options} {field argument : Member} {value : Value}
    (resolved : argument.resolve = .ok value) {clause : Clause} {count after : Counter}
    (built : Build.outcome ((backend options).relate .equal field.text value) count =
      (.ok clause, after)) :
    Build.outcome (compileTree (backend options)
      [[[.mk false (.compare field "=" (some argument))]]]) count = (.ok clause, after) := by
  have compiled : (Term.mk false (.compare field "=" (some argument))).compile (backend options)
      .filter = compareMember (backend options) field.text .equal argument := by
    simp [Term.compile, Simple.compile, Comparator.ofSign?]
  rw [compileTree_single, compiled, compareMember, resolved]
  exact Build.outcome_adapt_eq_ok_iff.mpr built

/-- Equalities with texts, and searches, hold of the texts that they ask for. The clause of an
equality with a quoted string or bare text relates the column to one argument; it holds of a column
that starts with what stands before the only wildcard of the text, at its end, of a column that ends
with what stands after the only wildcard, at its start, and of the text itself if it has neither
form. The pattern of a search, whatever its literal is, matches exactly the texts that start or end
with the literal without its wildcard. -/
theorem clauses_hold_of_asked_texts (options : Options) (count : Counter) :
    (∀ (field : Member) (value : Value) (wanted : String),
      value.content = .string wanted ∨ value.content = .text wanted →
      ∃ clause relation bound,
        Build.outcome ((backend options).relate .equal field.text value) count =
          (.ok clause, count + 1) ∧
        (∀ argument : Member, argument.resolve = .ok value →
          Build.outcome (compileTree (backend options)
            [[[.mk false (.compare field "=" (some argument))]]]) count =
            (.ok clause, count + 1)) ∧
        RelatesText options field.text count relation bound clause ∧
        ∀ column, Decides (relation.truth? column bound) (AskedFor wanted column)) ∧
    (∀ field literal : String, ∃ clause pattern,
      Build.outcome ((backend options).prefixSearch field literal) count =
        (.ok clause, count + 1) ∧
      RelatesText options field count .like pattern clause ∧
      ∀ column, Decides (like? pattern column) (∃ rest, column = prefixPattern literal ++ rest)) ∧
    ∀ field literal : String, ∃ clause pattern,
      Build.outcome ((backend options).suffixSearch field literal) count =
        (.ok clause, count + 1) ∧
      RelatesText options field count .like pattern clause ∧
      ∀ column, Decides (like? pattern column) (∃ rest, column = rest ++ suffixPattern literal) := by
  refine ⟨?_, ?_, ?_⟩
  · intro field value wanted isText
    obtain ⟨clause, relation, bound, built, relates, decides⟩ :=
      relate_decides options field.text isText count
    refine ⟨clause, relation, bound, built, ?_, relates, decides⟩
    exact fun argument resolved => outcome_compileTree_compare resolved built
  · exact fun field literal => prefixSearch_decides options field literal count
  · exact fun field literal => suffixSearch_decides options field literal count

/-- A text with all the characters that have a meaning in patterns before its wildcard, a backslash
last, compared with a column that has a name of its own. -/
theorem clauses_hold_of_asked_texts_escaped :
    ∃ clause,
      Build.outcome (compileTree (backend ⟨[("a", "t.c")], "arg"⟩)
        [[[.mk false (.compare ⟨⟨.text, "a", 0⟩, []⟩ "="
          (some ⟨⟨.string, "\"5%_\\*\"", 2⟩, []⟩))]]]) 4 = (.ok clause, 5) ∧
      clause.truth? (fun path => if path = ["t", "c"] then some "5%_\\ off" else none) =
        some true ∧
      clause.truth? (fun path => if path = ["t", "c"] then some "5%x\\ off" else none) ≠
        some true := by
  obtain ⟨clause, relation, bound, -, compiled, relates, decides⟩ :=
    (clauses_hold_of_asked_texts ⟨[("a", "t.c")], "arg"⟩ 4).1 ⟨⟨.text, "a", 0⟩, []⟩
      ⟨"\"5%_\\*\"", .string "5%_\\*"⟩ "5%_\\*" (.inl rfl)
  refine ⟨clause, compiled _ rfl, ?_, ?_⟩
  · rw [relates.truth (by decide) _ "5%_\\ off" rfl]
    exact (decides _).2.mpr (.inl ⟨"5%_\\", ⟨by decide, by decide⟩, rfl, " off", rfl⟩)
  · rw [relates.truth (by decide) _ "5%x\\ off" rfl, Ne, (decides _).2, askedFor_iff_admits]
    rintro ⟨rest, starts⟩
    simpa [prefixPattern] using congrArg String.toList starts

end FilterQuery.Sql
