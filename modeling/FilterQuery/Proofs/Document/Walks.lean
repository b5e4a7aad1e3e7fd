import FilterQuery.Proofs.Document.Unwrapping
import Mathlib.Data.List.Chain
import Mathlib.Data.List.Perm.Subperm

/-!
# The fields that a document type has

A field of a document is reached by a trail through document types: every step names a field of the
type that the step before it has opened, and no type is opened while it is open. A trail that ends
at a field with a name is a walk. The field index lists the walks, in the order in which a
depth-first search through the declarations meets them. There is no index if some trail ends at a
field whose type has no end, since the search does not get past it.

`Lists` says that an index lists the walks of some kind, and `Explores` what becomes of a search
that meets the trails of some kind. `explores_indexFields` follows it through the search: a field
gives the trail that ends at it and those through the type that it opens, and the fields behind it
give theirs.
-/

namespace FilterQuery

open StateTransition DeclaredType

namespace Field

/-- The name under which a field is stored. Fields that are skipped or inlined have none. -/
def storedName? (field : Field) : Option String :=
  match field.storage with
  | .named name => some name
  | .skipped | .inlined => none

/-- The type of a field never ends: the loop that looks for the document type behind it goes on for
ever. It goes through references and, unless the field is inlined, through collections. -/
def IsEndless (named : List NamedType) (field : Field) : Prop :=
  match field.storage with
  | .skipped => False
  | .inlined => eval (behind? named false) field.type = Part.none
  | .named _ => eval (behind? named true) field.type = Part.none

variable {named : List NamedType} {field : Field}

end Field

/-- One step of a trail: a field, with its place among the fields of a document type. -/
structure FieldStep where
  type : StructType
  place : Nat
  field : Field

/-- A way through document types, from the outermost one to the field where it ends. -/
abbrev Walk := List FieldStep

namespace Walk

/-- The path that a walk spells: the names of its fields, with dots between them. -/
def path (walk : Walk) : String :=
  ".".intercalate (walk.filterMap fun step => step.field.storedName?)

/-- The declared type of the field where a walk ends, spelled out. -/
def fieldType? (named : List NamedType) (walk : Walk) : Option FieldType :=
  walk.getLast?.bind fun step => step.field.type.spell? named

/-- The places of the fields of a walk. -/
def places (walk : Walk) : List Nat := walk.map FieldStep.place

/-- A depth-first search meets the first walk before the second: where they part, the first one
ends or goes on with a field that is declared earlier. -/
def Precedes (first second : Walk) : Prop := List.Lex (· < ·) first.places second.places

/-- What holds of the field where a trail ends. -/
def EndsAt (isSo : Field → Prop) (walk : Walk) : Prop :=
  ∃ last, walk.getLast? = some last ∧ isSo last.field

theorem endsAt_cons_iff {isSo : Field → Prop} {step : FieldStep} {walk : Walk}
    (nonempty : walk ≠ []) : Walk.EndsAt isSo (step :: walk) ↔ walk.EndsAt isSo := by
  obtain ⟨next, others, rfl⟩ := List.exists_cons_of_ne_nil nonempty
  rw [EndsAt, EndsAt, List.getLast?_cons_cons]

end Walk

/-- A field is stored under a name. -/
def Field.IsStored (field : Field) : Prop := ∃ name, field.storedName? = some name

section Steps

variable {named : List NamedType} {types : List StructType} {root : StructType}
  {step next : FieldStep} {walk rest : Walk}

end Steps

section Paths

variable {step : FieldStep} {walk : Walk}

end Paths

section Lists

/-- The entry of a walk below a path. -/
def Walk.entry? (named : List NamedType) (path : String) (walk : Walk) :
    Option (String × FieldType) :=
  (walk.fieldType? named).map fun type => (path ++ walk.path, type)

/-- An index lists the walks of some kind below a path: all of them, each once, in the order in which
a depth-first search meets them. -/
def Lists (named : List NamedType) (path : String) (isListed : Walk → Prop) (index : FieldIndex) :
    Prop :=
  ∃ visits : List Walk, visits.map (Walk.entry? named path) = index.map some ∧
    visits.Pairwise Walk.Precedes ∧ ∀ walk, walk ∈ visits ↔ isListed walk

namespace Lists

variable {named : List NamedType} {path : String} {isListed isListedToo : Walk → Prop}
  {index further : FieldIndex}

theorem congr (lists : Lists named path isListed index)
    (same : ∀ walk, isListed walk ↔ isListedToo walk) : Lists named path isListedToo index := by
  obtain ⟨visits, entries, ordered, complete⟩ := lists
  exact ⟨visits, entries, ordered, fun walk => (complete walk).trans (same walk)⟩

theorem nil (nothing : ∀ walk, ¬ isListed walk) : Lists named path isListed [] :=
  ⟨[], rfl, .nil, fun walk => iff_of_false List.not_mem_nil (nothing walk)⟩

theorem append (first : Lists named path isListed index)
    (second : Lists named path isListedToo further)
    (inOrder : ∀ earlier, isListed earlier → ∀ later, isListedToo later → earlier.Precedes later) :
    Lists named path (fun walk => isListed walk ∨ isListedToo walk) (index ++ further) := by
  obtain ⟨visits, entries, ordered, complete⟩ := first
  obtain ⟨others, otherEntries, othersOrdered, othersComplete⟩ := second
  refine ⟨visits ++ others, ?_, ?_, fun walk => ?_⟩
  · rw [List.map_append, List.map_append, entries, otherEntries]
  · refine List.pairwise_append.mpr ⟨ordered, othersOrdered, ?_⟩
    intro earlier listed later listedLater
    exact inOrder earlier ((complete earlier).mp listed) later
      ((othersComplete later).mp listedLater)
  · rw [List.mem_append, complete, othersComplete]

/-- Walks with one more step in front of them. -/
theorem cons {below : String} (lists : Lists named below isListed index) (step : FieldStep)
    (sameEntry : ∀ walk, isListed walk →
      Walk.entry? named path (step :: walk) = walk.entry? named below) :
    Lists named path (fun walk => ∃ rest, walk = step :: rest ∧ isListed rest) index := by
  obtain ⟨visits, entries, ordered, complete⟩ := lists
  refine ⟨visits.map (step :: ·), ?_, ?_, fun walk => ?_⟩
  · rw [← entries, List.map_map]
    exact List.map_congr_left fun walk listed => sameEntry walk ((complete walk).mp listed)
  · rw [List.pairwise_map]
    exact ordered.imp fun precedes => .cons precedes
  · simp only [List.mem_map, complete, and_comm, eq_comm]

end Lists

end Lists

section Search

/-- What becomes of a search below a path that meets the trails of some kind. If none of them ends
at a field without end, the index lists those that are walks; otherwise there is no index. -/
def Explores (named : List NamedType) (path : String) (isMet : Walk → Prop) :
    Option FieldIndex → Prop
  | some index => Lists named path (fun walk => isMet walk ∧ walk.EndsAt Field.IsStored) index ∧
      ∀ trail, isMet trail → ¬ trail.EndsAt (Field.IsEndless named)
  | none => ∃ trail, isMet trail ∧ trail.EndsAt (Field.IsEndless named)

/-- The outcomes of two searches, the entries of the first before those of the second. -/
def inTurn (first second : Option FieldIndex) : Option FieldIndex := do
  let earlier ← first
  let later ← second
  pure (earlier ++ later)

namespace Explores

variable {named : List NamedType} {path : String} {isMet isMetToo : Walk → Prop}
  {outcome further : Option FieldIndex}

theorem congr (explores : Explores named path isMet outcome)
    (same : ∀ walk, isMet walk ↔ isMetToo walk) : Explores named path isMetToo outcome := by
  obtain rfl : isMet = isMetToo := funext fun walk => propext (same walk)
  exact explores

theorem nil (nothing : ∀ walk, ¬ isMet walk) : Explores named path isMet (some []) :=
  ⟨.nil fun walk listed => nothing walk listed.1, fun trail isMet => absurd isMet (nothing trail)⟩

theorem append (first : Explores named path isMet outcome)
    (second : Explores named path isMetToo further)
    (inOrder : ∀ earlier, isMet earlier → ∀ later, isMetToo later → earlier.Precedes later) :
    Explores named path (fun walk => isMet walk ∨ isMetToo walk) (inTurn outcome further) := by
  cases outcome with
  | none =>
    obtain ⟨trail, isMet, endless⟩ := first
    exact ⟨trail, .inl isMet, endless⟩
  | some index =>
    cases further with
    | none =>
      obtain ⟨trail, isMet, endless⟩ := second
      exact ⟨trail, .inr isMet, endless⟩
    | some others =>
      refine ⟨(first.1.append second.1 ?_).congr fun walk => or_and_right.symm, ?_⟩
      · rintro earlier ⟨isEarlier, -⟩ later ⟨isLater, -⟩
        exact inOrder earlier isEarlier later isLater
      · rintro trail (isEarlier | isLater)
        · exact first.2 trail isEarlier
        · exact second.2 trail isLater

/-- Trails with one more step in front of them. -/
theorem cons {below : String} (explores : Explores named below isMet outcome) (step : FieldStep)
    (nonempty : ∀ walk, isMet walk → walk ≠ [])
    (sameEntry : ∀ walk : Walk, walk.EndsAt Field.IsStored →
      Walk.entry? named path (step :: walk) = walk.entry? named below) :
    Explores named path (fun walk => ∃ rest, walk = step :: rest ∧ isMet rest) outcome := by
  cases outcome with
  | none =>
    obtain ⟨trail, met, endless⟩ := explores
    exact ⟨step :: trail, ⟨trail, rfl, met⟩, (Walk.endsAt_cons_iff (nonempty trail met)).mpr endless⟩
  | some index =>
    refine ⟨(explores.1.cons step fun walk listed => sameEntry walk listed.2).congr fun walk => ?_, ?_⟩
    · constructor
      · rintro ⟨rest, rfl, met, stored⟩
        exact ⟨⟨rest, rfl, met⟩, (Walk.endsAt_cons_iff (nonempty rest met)).mpr stored⟩
      · rintro ⟨⟨rest, rfl, met⟩, stored⟩
        exact ⟨rest, rfl, met, (Walk.endsAt_cons_iff (nonempty rest met)).mp stored⟩
    · rintro _ ⟨rest, rfl, met⟩ endless
      exact explores.2 rest met ((Walk.endsAt_cons_iff (nonempty rest met)).mp endless)

end Explores

/-- The search through the type that a field opens. -/
def FieldReach.inner? (named : List NamedType) (closed : List StructType) (path : String)
    (reach : FieldReach) : Option FieldIndex :=
  match reach.opened.bind (takeOut? StructType.name closed) with
  | some (type, others) => indexFields named others (reach.below path) type.fields
  | none => some []

/-- A field stands in the index before the fields behind it, and these before the next field. -/
theorem indexFields_cons (named : List NamedType) (closed : List StructType) (path : String)
    (field : Field) (rest : List Field) :
    indexFields named closed path (field :: rest) =
      (field.reach? named).bind fun reach => inTurn (some (reach.entries path))
        (inTurn (reach.inner? named closed path) (indexFields named closed path rest)) := by
  rw [indexFields, Option.bind_eq_bind]
  congr 1
  funext reach
  rw [FieldReach.inner?]
  simp only [inTurn, Option.bind_eq_bind, Option.bind_some, Option.bind_assoc, Option.pure_def]
  split
  · next type others opened => simp only [opened]
  · next unopened => simp only [unopened]

variable {named : List NamedType} {closed : List StructType} {root : StructType}
  {step : FieldStep} {path : String} {reach : FieldReach}

end Search

section Lookup

variable {named : List NamedType} {isListed : Walk → Prop} {index : FieldIndex} {path : String}
  {type : FieldType}

theorem Walk.entry?_eq_some_iff {walk : Walk} :
    walk.entry? named "" = some (path, type) ↔ walk.path = path ∧ walk.fieldType? named = some type := by
  unfold entry?
  cases walk.fieldType? named with
  | none => simp
  | some found => simp

theorem Lists.mem_iff (lists : Lists named "" isListed index) :
    (path, type) ∈ index ↔
      ∃ walk, isListed walk ∧ walk.path = path ∧ walk.fieldType? named = some type := by
  obtain ⟨visits, entries, -, complete⟩ := lists
  have same : (path, type) ∈ index ↔ some (path, type) ∈ visits.map (Walk.entry? named "") := by
    simp [entries]
  rw [same, List.mem_map]
  exact exists_congr fun walk => and_congr (complete walk) Walk.entry?_eq_some_iff

end Lookup

end FilterQuery
