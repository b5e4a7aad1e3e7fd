import FilterQuery.Document.Datum
import FilterQuery.Text.LetterCase
import FilterQuery.Tree.Basic

/-!
# Document types

The type of a document: named fields, each with a tag that says how it is stored, and types that may
contain one another. The field index lists the paths by which the fields of a document and of the
documents inside it are addressed.

References and collections may have names too, and may lead back to themselves without an element at
the end. A document type with such a field has no index.
-/

namespace FilterQuery

/-- A type that is stored as a single value or document. `other` is any type without rules of its
own. A `struct` is known by its name. -/
inductive ElementType where
  | instant
  | duration
  | uuid
  | ulid
  | objectId
  | bytes
  | string (name : String)
  | boolean (name : String)
  | integer (type : IntegerType)
  | float (type : FloatType)
  | other (name : String)
  | struct (name : String)
deriving DecidableEq, Repr

/-- The name of an element type. -/
def ElementType.name : ElementType → String
  | .instant => "time.Time"
  | .duration => IntegerType.duration.name
  | .uuid => "uuid.UUID"
  | .ulid => "ulid.ULID"
  | .objectId => "primitive.ObjectID"
  | .bytes => "[]uint8"
  | .string name | .boolean name | .other name | .struct name => name
  | .integer type => type.name
  | .float type => type.name

/-- The document type that an element type is. -/
def ElementType.struct? : ElementType → Option String
  | .struct name => some name
  | _ => none

/-- The type of a field, spelled out: an element behind references and collections. -/
inductive FieldType where
  | element (type : ElementType)
  | pointer (target : FieldType)
  | collection (name : String) (item : FieldType)
deriving DecidableEq, Repr

/-- The type of single elements, through references and collections. -/
def FieldType.elementType : FieldType → ElementType
  | .element type => type
  | .pointer target => target.elementType
  | .collection _ item => item.elementType

/-- The type that a field is declared with. A reference or collection type that has a name of its
own is known by it. -/
inductive DeclaredType where
  | element (type : ElementType)
  | pointer (target : DeclaredType)
  | collection (name : String) (item : DeclaredType)
  | named (name : String)
deriving DecidableEq, Repr

/-- A reference or collection type with a name of its own, which its definition may mention. -/
structure NamedType where
  name : String
  definition : DeclaredType
deriving DecidableEq, Repr

/-- The entry of a table with a name, and the entries with other names. -/
def takeOut? {Entry : Type} (nameOf : Entry → String) (table : List Entry) (name : String) :
    Option (Entry × List Entry) :=
  match table.find? (nameOf · = name) with
  | some entry => some (entry, table.filter (nameOf · ≠ name))
  | none => none

/-- The other entries are fewer. -/
theorem length_lt_of_takeOut? {Entry : Type} {nameOf : Entry → String} {table others : List Entry}
    {name : String} {entry : Entry} (taken : takeOut? nameOf table name = some (entry, others)) :
    others.length < table.length := by
  cases search : table.find? (nameOf · = name) with
  | none => simp [takeOut?, search] at taken
  | some found =>
    obtain ⟨rfl, rfl⟩ : found = entry ∧ table.filter (nameOf · ≠ name) = others := by
      simpa [takeOut?, search] using taken
    apply List.length_filter_lt_length_iff_exists.mpr
    exact ⟨found, List.mem_of_find?_eq_some search, by simpa using List.find?_some search⟩

namespace DeclaredType

/-- The name of a declared type. -/
def name : DeclaredType → String
  | .element type => type.name
  | .pointer target => "*" ++ target.name
  | .collection name _ => name
  | .named name => name

/-- The document type that a declared type is. -/
def struct? : DeclaredType → Option String
  | .element type => type.struct?
  | _ => none

/-- The type with all references followed, if they come to an end. The names in `closed` have not
been met yet: one that is met again leads to itself for ever. Behind a name that nothing declares
there is nothing. -/
def targetWith? (named closed : List NamedType) (type : DeclaredType) : Option DeclaredType :=
  match type with
  | .element type => some (.element type)
  | .collection name item => some (.collection name item)
  | .pointer target => targetWith? named closed target
  | .named name =>
    match _ : takeOut? NamedType.name closed name with
    | some (type, others) => targetWith? named others type.definition
    | none => if (named.find? (·.name = name)).isSome then none else some (.named name)
termination_by (closed.length, sizeOf type)
decreasing_by
  · exact Prod.Lex.right _ (by rw [pointer.sizeOf_spec]; omega)
  · exact Prod.Lex.left _ _ (length_lt_of_takeOut? (by assumption))

/-- The type spelled out, through references and collections, if they come to an end. A name that
nothing declares is that of a type without rules of its own. -/
def spellWith? (named closed : List NamedType) (type : DeclaredType) : Option FieldType :=
  match type with
  | .element type => some (.element type)
  | .collection name item => (spellWith? named closed item).map (.collection name)
  | .pointer target => (spellWith? named closed target).map .pointer
  | .named name =>
    match _ : takeOut? NamedType.name closed name with
    | some (type, others) => spellWith? named others type.definition
    | none => if (named.find? (·.name = name)).isSome then none else some (.element (.other name))
termination_by (closed.length, sizeOf type)
decreasing_by
  · exact Prod.Lex.right _ (by rw [collection.sizeOf_spec]; omega)
  · exact Prod.Lex.right _ (by rw [pointer.sizeOf_spec]; omega)
  · exact Prod.Lex.left _ _ (length_lt_of_takeOut? (by assumption))

/-- The type with all references followed. It is none if they have no end. -/
def target? (named : List NamedType) (type : DeclaredType) : Option DeclaredType :=
  type.targetWith? named named

/-- The type spelled out. It is none if its references and collections have no end. -/
def spell? (named : List NamedType) (type : DeclaredType) : Option FieldType :=
  type.spellWith? named named

end DeclaredType

/-- A field of a document type. Only exported fields are stored. -/
structure Field where
  name : String
  exported : Bool
  tag : Option String
  type : DeclaredType
deriving DecidableEq, Repr

/-- How a field is stored: not at all, with its own fields in place of it, or under a name. -/
inductive Storage where
  | skipped
  | inlined
  | named (name : String)
deriving DecidableEq, Repr

/-- How a field is stored. A tag gives the name and then options, with commas between them; without
a name in the tag it is the lower-case name of the field. -/
def Field.storage (field : Field) : Storage :=
  if !field.exported then .skipped
  else
    match field.tag with
    | none => .named (Text.lower field.name)
    | some "-" => .skipped
    | some tag =>
      match splitText ',' tag with
      | [] => .named (Text.lower field.name)
      | name :: options =>
        if options.contains "inline" then .inlined
        else if name = "" then .named (Text.lower field.name)
        else .named name

/-- A document type. -/
structure StructType where
  name : String
  fields : List Field
deriving DecidableEq, Repr

/-- The types with names: document types, and references and collections. -/
structure Schema where
  structs : List StructType
  named : List NamedType
deriving DecidableEq, Repr

/-- The types of fields by path, in the order in which they are found. -/
abbrev FieldIndex := List (String × FieldType)

/-- The type of the field at a path; the last entry decides. -/
def FieldIndex.find? (index : FieldIndex) (path : String) : Option FieldType :=
  index.reverse.lookup path

/-- What is behind a field: the name and type under which it is listed itself, and the document type
whose fields are listed with it. -/
structure FieldReach where
  own : Option (String × FieldType)
  opened : Option String
deriving DecidableEq, Repr

/-- What is behind a field, if its type comes to an end. An inlined field is not listed itself, and
opens a document type through references only. -/
def Field.reach? (named : List NamedType) (field : Field) : Option FieldReach :=
  match field.storage with
  | .skipped => some ⟨none, none⟩
  | .inlined => (field.type.target? named).map fun type => ⟨none, type.struct?⟩
  | .named name =>
    (field.type.spell? named).map fun type => ⟨some (name, type), type.elementType.struct?⟩

namespace FieldReach

/-- The entry of the field itself, below a path. -/
def entries (path : String) (reach : FieldReach) : FieldIndex :=
  (reach.own.map fun (name, type) => (path ++ name, type)).toList

/-- The path below which the fields of the opened type stand. -/
def below (path : String) (reach : FieldReach) : String :=
  match reach.own with
  | some (name, _) => path ++ name ++ "."
  | none => path

end FieldReach

/-- The entries of some fields of a document type below a path. The fields of an inlined document
stand beside those of the document around it. The types in `closed` may still be opened: a type is
not opened again inside itself. There is no index if the type of a field that is met has no end. -/
def indexFields (named : List NamedType) (closed : List StructType) (path : String)
    (fields : List Field) : Option FieldIndex :=
  match fields with
  | [] => some []
  | field :: rest => do
    let reach ← field.reach? named
    let inner ←
      (match _ : reach.opened.bind (takeOut? StructType.name closed) with
      | some (type, others) => indexFields named others (reach.below path) type.fields
      | none => some [])
    let behind ← indexFields named closed path rest
    pure (reach.entries path ++ (inner ++ behind))
termination_by (closed.length, fields.length)
decreasing_by
  · next opened =>
    obtain ⟨name, -, taken⟩ := Option.bind_eq_some_iff.mp opened
    exact Prod.Lex.left _ _ (length_lt_of_takeOut? taken)
  · exact Prod.Lex.right _ (by simp)

/-- The complaint about a document type that is none. -/
structure NotADocument where
  type : String
deriving DecidableEq, Repr

/-- The wording of the complaint. -/
def NotADocument.message (complaint : NotADocument) : String :=
  "typed adapter needs a struct, got " ++ complaint.type

/-- The field index of a type. It is none if the search for it has no end. -/
def FieldIndex.ofType (schema : Schema) (type : DeclaredType) :
    Option (Except NotADocument FieldIndex) := do
  let target ← type.target? schema.named
  match target.struct? with
  | none => pure (.error ⟨target.name⟩)
  | some name =>
    match takeOut? StructType.name schema.structs name with
    | some (root, others) =>
      let index ← indexFields schema.named others "" root.fields
      pure (.ok index)
    | none => pure (.ok [])

end FilterQuery
