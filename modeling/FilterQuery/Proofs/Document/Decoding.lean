import FilterQuery.Compile.Predicate
import FilterQuery.Proofs.Document.Keys

/-!
# Reading query documents back

Connectives, comparisons and the fields of a filter share the keys of one kind of document, an
equality has no operator of its own, and searches are values like others. A document nevertheless
says which calls built it: `read?` finds them, up to what no document keeps. That is how a value was
written, and the wildcard of a search.

A field may be spelled like an operator. What stands under a connective is an array, and no field is
compared with an array.
-/

namespace FilterQuery

section Calls

variable {State Failure Built : Type}

mutual

/-- Makes the calls of a term through a backend. -/
def Predicate.buildWith (backend : Backend State Failure Built) :
    Predicate → Build State Failure Built
  | .and operands => do
    let built ← Predicate.buildAllWith backend operands
    backend.conjunction built
  | .or operands => do
    let built ← Predicate.buildAllWith backend operands
    backend.disjunction built
  | .not operand => do
    let built ← operand.buildWith backend
    backend.negation built
  | .startsWith field literal => backend.prefixSearch field literal
  | .endsWith field literal => backend.suffixSearch field literal
  | .compare comparator field value => backend.compare comparator field value

/-- Makes the calls of several terms, one term after the other. -/
def Predicate.buildAllWith (backend : Backend State Failure Built) :
    List Predicate → Build State Failure (List Built)
  | [] => pure []
  | term :: rest => do
    let built ← term.buildWith backend
    let others ← Predicate.buildAllWith backend rest
    pure (built :: others)

end

end Calls

mutual

/-- Whether every connective of a term has operands. -/
def Predicate.hasOperands : Predicate → Bool
  | .and operands | .or operands => !operands.isEmpty && Predicate.allHaveOperands operands
  | .not operand => operand.hasOperands
  | .startsWith _ _ | .endsWith _ _ | .compare _ _ _ => true

/-- Whether every connective of several terms has operands. -/
def Predicate.allHaveOperands : List Predicate → Bool
  | [] => true
  | term :: rest => term.hasOperands && Predicate.allHaveOperands rest

end

namespace Document

/-- What a document asks for. A search has the pattern that its literal leaves without the wildcard,
and a comparison has its value as a piece of data. -/
inductive Query where
  | and (operands : List Query)
  | or (operands : List Query)
  | not (operand : Query)
  | startsWith (field pattern : String)
  | endsWith (field pattern : String)
  | compare (comparator : Comparator) (field : String) (value : Datum)

mutual

/-- What the calls of a term ask for. -/
def query : Predicate → Query
  | .and operands => .and (queries operands)
  | .or operands => .or (queries operands)
  | .not operand => .not (query operand)
  | .startsWith field literal => .startsWith field (prefixPattern literal)
  | .endsWith field literal => .endsWith field (suffixPattern literal)
  | .compare comparator field value => .compare comparator field value.datum

/-- What the calls of several terms ask for. -/
def queries : List Predicate → List Query
  | [] => []
  | term :: rest => query term :: queries rest

end

namespace Query

mutual

/-- The document that asks for something. -/
def document : Query → Datum
  | .and operands => single "$and" (.array (documents operands))
  | .or operands => single "$or" (.array (documents operands))
  | .not operand => negate operand.document
  | .startsWith field pattern => single field (.regex ("^" ++ escapeRegex pattern))
  | .endsWith field pattern => single field (.regex (escapeRegex pattern ++ "$"))
  | .compare comparator field value => relate comparator field value

/-- The documents that ask for several things. -/
def documents : List Query → List Datum
  | [] => []
  | query :: rest => query.document :: documents rest

end

end Query

section Building

mutual

/-- Calls whose connectives have operands build the document of what they ask for. -/
theorem outcome_buildWith (term : Predicate) (complete : term.hasOperands = true) :
    Build.outcome (term.buildWith backend) () = (.ok (query term).document, ()) := by
  match term with
  | .and [] | .or [] => cases complete
  | .and (operand :: rest) =>
    simp only [Predicate.buildWith, Build.outcome_bind_eq_ok_iff]
    exact ⟨_, (), outcome_buildAllWith (operand :: rest) complete, rfl⟩
  | .or (operand :: rest) =>
    simp only [Predicate.buildWith, Build.outcome_bind_eq_ok_iff]
    exact ⟨_, (), outcome_buildAllWith (operand :: rest) complete, rfl⟩
  | .not operand =>
    simp only [Predicate.buildWith, Build.outcome_bind_eq_ok_iff]
    exact ⟨_, (), outcome_buildWith operand complete, rfl⟩
  | .startsWith field literal => rfl
  | .endsWith field literal => rfl
  | .compare comparator field value => rfl

theorem outcome_buildAllWith (terms : List Predicate)
    (complete : Predicate.allHaveOperands terms = true) :
    Build.outcome (Predicate.buildAllWith backend terms) () =
      (.ok (Query.documents (queries terms)), ()) := by
  match terms with
  | [] => rfl
  | term :: rest =>
    rw [Predicate.allHaveOperands, Bool.and_eq_true] at complete
    simp only [Predicate.buildAllWith, Build.outcome_bind_eq_ok_iff]
    exact ⟨_, (), outcome_buildWith term complete.1,
      _, (), outcome_buildAllWith rest complete.2, rfl⟩

end

end Building

section Patterns

/-- A text without the backslashes that make other characters mean themselves. -/
def unescape : List Char → List Char
  | '\\' :: c :: rest => c :: unescape rest
  | c :: rest => c :: unescape rest
  | [] => []

/-- Every text can be told from the regular expression that matches it. -/
theorem unescape_flatMap (text : List Char) :
    unescape (text.flatMap fun c => if isMeta c then ['\\', c] else [c]) = text := by
  induction text with
  | nil => rfl
  | cons c rest inductionHypothesis =>
    rw [List.flatMap_cons]
    by_cases special : isMeta c = true
    · simp [special, unescape, inductionHypothesis]
    · have noBackslash : c ≠ '\\' := by
        rintro rfl
        exact special (by decide)
      simp [special, unescape, inductionHypothesis, noBackslash]

/-- An escaped text never starts with the sign for the start of a text. -/
theorem head?_escapeRegex (text : String) : (escapeRegex text).toList.head? ≠ some '^' := by
  rw [escapeRegex, String.toList_ofList]
  cases text.toList with
  | nil => simp
  | cons c rest =>
    by_cases special : isMeta c = true
    · simp [special]
    · have other : c ≠ '^' := by
        rintro rfl
        exact special (by decide)
      simp [special, other]

/-- The search of a regular expression: one for a start if it starts with the sign for it. -/
def readSearch (field pattern : String) : Query :=
  match pattern.toList with
  | '^' :: rest => .startsWith field (String.ofList (unescape rest))
  | characters => .endsWith field (String.ofList (unescape characters.dropLast))

theorem readSearch_startsWith (field pattern : String) :
    readSearch field ("^" ++ escapeRegex pattern) = .startsWith field pattern := by
  simp [readSearch, escapeRegex, unescape_flatMap]

theorem readSearch_endsWith (field pattern : String) :
    readSearch field (escapeRegex pattern ++ "$") = .endsWith field pattern := by
  have ends : (escapeRegex pattern ++ "$").toList.dropLast = (escapeRegex pattern).toList := by
    simp
  have noStart : ∀ rest, (escapeRegex pattern ++ "$").toList ≠ '^' :: rest := by
    intro rest same
    have start := head?_escapeRegex pattern
    cases characters : (escapeRegex pattern).toList with
    | nil => simp [characters] at same
    | cons c others => simp_all
  unfold readSearch
  split
  · next rest same => exact absurd same (noStart rest)
  · rw [ends, escapeRegex, String.toList_ofList, unescape_flatMap, String.ofList_toList]

end Patterns

section Reading

/-- The comparator of an operator that takes a value. -/
def comparatorOf? : String → Option Comparator
  | "$lt" => some .less
  | "$lte" => some .lessEqual
  | "$gte" => some .greaterEqual
  | "$gt" => some .greater
  | "$ne" => some .notEqual
  | _ => none

/-- What is asked of a field. A value with no operator around it is one to be equal to. -/
def readCondition? (field : String) : Datum → Option Query
  | .regex pattern => some (readSearch field pattern)
  | .document [("$elemMatch", .document [("$eq", value)])] => some (.compare .has field value)
  | .document [(operator, value)] => (comparatorOf? operator).map (.compare · field value)
  | .document _ => none
  | value => some (.compare .equal field value)

/-- The connective of a key, over the operands in the array under it. -/
def readConnective? : String → List Query → Option Query
  | "$and", operands => some (.and operands)
  | "$or", operands => some (.or operands)
  | "$nor", [operand] => some (.not operand)
  | _, _ => none

mutual

/-- What a document asks for, if it is one that calls build. -/
def read? : Datum → Option Query
  | .document [(key, .array items)] => (readAll? items).bind (readConnective? key)
  | .document [(field, value)] => readCondition? field value
  | _ => none

/-- What several documents ask for. -/
def readAll? : List Datum → Option (List Query)
  | [] => some []
  | item :: rest => do
    let query ← read? item
    let others ← readAll? rest
    pure (query :: others)

end

/-- A condition is told from a connective by what stands under its key. -/
theorem read?_single {field : String} {value : Datum} (plain : IsPlain value) :
    read? (single field value) = readCondition? field value := by
  rw [single, read?]
  exact plain

/-- The data of values are told from searches and operators. -/
theorem readCondition?_datum (field : String) (value : Value) :
    readCondition? field value.datum = some (.compare .equal field value.datum) := by
  unfold Value.datum
  split <;> rfl

theorem read?_relate (comparator : Comparator) (field : String) (value : Value) :
    read? (relate comparator field value.datum) = some (.compare comparator field value.datum) := by
  cases comparator with
  | equal =>
    rw [relate, read?_single (isPlain_datum value)]
    exact readCondition?_datum field value
  | less | lessEqual | greaterEqual | greater | notEqual | has =>
    rw [relate, read?_single (isPlain_single _ _)]
    rfl

theorem read?_regex (field pattern : String) :
    read? (single field (.regex pattern)) = some (readSearch field pattern) := by
  have plain : IsPlain (.regex pattern) := by
    intro items same
    cases same
  rw [read?_single plain]
  rfl

mutual

/-- A document is read as what the calls that built it ask for. -/
theorem read?_document (term : Predicate) : read? (query term).document = some (query term) := by
  match term with
  | .and operands | .or operands =>
    rw [query, Query.document, single, read?, readAll?_documents operands]
    rfl
  | .not operand =>
    have alone : readAll? [(query operand).document] = some [query operand] := by
      simp [readAll?, read?_document operand]
    rw [query, Query.document, negate, single, read?, alone]
    rfl
  | .startsWith field literal =>
    rw [query, Query.document, read?_regex, readSearch_startsWith]
  | .endsWith field literal =>
    rw [query, Query.document, read?_regex, readSearch_endsWith]
  | .compare comparator field value => exact read?_relate comparator field value

theorem readAll?_documents (terms : List Predicate) :
    readAll? (Query.documents (queries terms)) = some (queries terms) := by
  match terms with
  | [] => rfl
  | term :: rest =>
    simp [queries, Query.documents, readAll?, read?_document term, readAll?_documents rest]

end

end Reading

/-- The document determines the calls. Whatever the calls are, as long as no connective lacks
operands, they build a document, and two of them build the same document exactly when they ask for
the same: the same connectives over the same operands, the same searches for the same patterns, and
the same comparisons of the same fields with the same data. -/
theorem document_determines_calls (first second : Predicate)
    (firstComplete : first.hasOperands = true) (secondComplete : second.hasOperands = true) :
    ∃ document₁ document₂,
      Build.outcome (first.buildWith backend) () = (.ok document₁, ()) ∧
      Build.outcome (second.buildWith backend) () = (.ok document₂, ()) ∧
      (document₁ = document₂ ↔ query first = query second) := by
  refine ⟨_, _, outcome_buildWith first firstComplete, outcome_buildWith second secondComplete, ?_⟩
  constructor
  · intro same
    have readings := (read?_document first).symm.trans (same ▸ read?_document second)
    exact Option.some.inj readings
  · intro same
    rw [same]

/-- A field that is spelled like a connective and compared with a number, and a connective over a
field that is spelled like the comparison: the documents differ in nothing but an array. -/
theorem document_determines_calls_spelled :
    ∃ document₁ document₂,
      Build.outcome (Predicate.buildWith backend
        (.compare .less "$and" (.ofContent (.integer32 5)))) () = (.ok document₁, ()) ∧
      Build.outcome (Predicate.buildWith backend
        (.and [.compare .equal "$lt" (.ofContent (.integer32 5))])) () = (.ok document₂, ()) ∧
      document₁ ≠ document₂ := by
  obtain ⟨document₁, document₂, built₁, built₂, sameIff⟩ := document_determines_calls
    (.compare .less "$and" (.ofContent (.integer32 5)))
    (.and [.compare .equal "$lt" (.ofContent (.integer32 5))]) rfl rfl
  refine ⟨document₁, document₂, built₁, built₂, fun same => ?_⟩
  cases sameIff.mp same

end Document

end FilterQuery
