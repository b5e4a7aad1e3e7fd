import FilterQuery.Sql.Clause

/-!
# Reading conditions

How a database reads the text of a condition. The text is first cut into lexemes: identifiers in
double quotation marks, in which a doubled mark stands for one, arguments behind `@`, relation
signs, keywords in either case, dots and parentheses, with blanks between them. The lexemes are then
read by the grammar

    disjunction := conjunction (OR conjunction)*
    conjunction := negation (AND negation)*
    negation    := NOT negation | '(' disjunction ')' | comparison
    comparison  := operand sign operand | operand LIKE operand
    operand     := column | argument | ANY '(' column ')'
    column      := identifier ('.' identifier)*

in which comparisons bind more tightly than `NOT`, `NOT` more tightly than `AND`, and `AND` more
tightly than `OR`. `ANY` stands on the right of a sign only.

Both readers are machines that take one symbol at a time. The second keeps, for every open
parenthesis, what waits at each strength for the operand to come.

An identifier may be empty here, although a database refuses two quotation marks with nothing
between them. A field with an empty part, or one mapped to an empty column, becomes such an
identifier; its clause is cut into lexemes like any other.
-/

namespace FilterQuery.Sql

/-- The characters that separate lexemes and belong to none. -/
def isGap (c : Char) : Bool := c == ' ' || c == '\t' || c == '\n' || c == '\r' || c == '\x0c'

/-- The characters that may start a name. -/
def isNameStart (c : Char) : Bool := c.isAlpha || c == '_'

/-- The characters that may continue a name. -/
def isNameCharacter (c : Char) : Bool := isNameStart c || c.isDigit

/-- Whether a text is a name: a letter or underscore, then letters, digits and underscores. -/
def isName : List Char → Bool
  | [] => false
  | c :: rest => isNameStart c && rest.all isNameCharacter

/-- The relations between two operands. -/
inductive Relation where
  | equal
  | notEqual
  | less
  | lessEqual
  | greater
  | greaterEqual
  | like
deriving DecidableEq, Repr

/-- The characters of relation signs. -/
def isSignCharacter (c : Char) : Bool := c == '=' || c == '<' || c == '>' || c == '!'

/-- The relation with a sign. -/
def Relation.ofSign? : List Char → Option Relation
  | ['='] => some .equal
  | ['<', '>'] => some .notEqual
  | ['!', '='] => some .notEqual
  | ['<'] => some .less
  | ['<', '='] => some .lessEqual
  | ['>'] => some .greater
  | ['>', '='] => some .greaterEqual
  | _ => none

/-- The words with a meaning of their own. -/
inductive Keyword where
  | and
  | or
  | not
  | like
  | any
deriving DecidableEq, Repr

/-- The keyword that a word spells, in either case. -/
def Keyword.ofWord? (letters : List Char) : Option Keyword :=
  match letters.map Char.toUpper with
  | ['A', 'N', 'D'] => some .and
  | ['O', 'R'] => some .or
  | ['N', 'O', 'T'] => some .not
  | ['L', 'I', 'K', 'E'] => some .like
  | ['A', 'N', 'Y'] => some .any
  | _ => none

/-- A symbol of a condition. Identifiers stand without their quotation marks, arguments without the
sign before them. -/
inductive Lexeme where
  | identifier (name : String)
  | argument (name : String)
  | relation (relation : Relation)
  | keyword (keyword : Keyword)
  | dot
  | leftParen
  | rightParen
deriving DecidableEq, Repr

namespace Lexeme

/-- What the last characters are part of: nothing, an identifier, an identifier that has ended
unless another quotation mark follows, an argument, a word or a sign. An identifier may end at once,
with no character in it. -/
inductive Mode where
  | between
  | quoted (body : List Char)
  | closing (body : List Char)
  | argument (name : List Char)
  | word (letters : List Char)
  | sign (characters : List Char)
deriving DecidableEq, Repr

/-- The lexeme that is complete if the text ends here. -/
def Mode.finish? : Mode → Option (List Lexeme)
  | .between => some []
  | .quoted _ => none
  | .closing body => some [.identifier (String.ofList body)]
  | .argument name => if isName name then some [.argument (String.ofList name)] else none
  | .word letters => (Keyword.ofWord? letters).map ([.keyword ·])
  | .sign characters => (Relation.ofSign? characters).map ([.relation ·])

/-- Reads a character that continues no lexeme. -/
def start? (c : Char) : Option (List Lexeme × Mode) :=
  if isGap c then some ([], .between)
  else if c = '"' then some ([], .quoted [])
  else if c = '@' then some ([], .argument [])
  else if c = '.' then some ([.dot], .between)
  else if c = '(' then some ([.leftParen], .between)
  else if c = ')' then some ([.rightParen], .between)
  else if isNameStart c then some ([], .word [c])
  else if isSignCharacter c then some ([], .sign [c])
  else none

/-- Ends the current lexeme before a character, and reads the character. -/
def Mode.flush? (mode : Mode) (c : Char) : Option (List Lexeme × Mode) :=
  match mode.finish?, start? c with
  | some finished, some (started, next) => some (finished ++ started, next)
  | _, _ => none

/-- Reads one character. -/
def Mode.read? (mode : Mode) (c : Char) : Option (List Lexeme × Mode) :=
  match mode with
  | .between => start? c
  | .quoted body => some ([], if c = '"' then .closing body else .quoted (body ++ [c]))
  | .closing body => if c = '"' then some ([], .quoted (body ++ ['"'])) else mode.flush? c
  | .argument name =>
    if isNameCharacter c then some ([], .argument (name ++ [c])) else mode.flush? c
  | .word letters => if isNameCharacter c then some ([], .word (letters ++ [c])) else mode.flush? c
  | .sign characters =>
    if isSignCharacter c then some ([], .sign (characters ++ [c])) else mode.flush? c

/-- The lexemes of a text, of which the characters before it have been read. -/
def lexFrom? (mode : Mode) : List Char → Option (List Lexeme)
  | [] => mode.finish?
  | c :: rest =>
    match mode.read? c with
    | some (found, next) => (lexFrom? next rest).map (found ++ ·)
    | none => none

/-- The lexemes of a text. -/
def lex? (text : String) : Option (List Lexeme) := lexFrom? .between text.toList

end Lexeme

/-- One side of a comparison: a column with its qualifiers, an argument, or some element of a
column. -/
inductive Operand where
  | column (path : List String)
  | argument (name : String)
  | anyOf (path : List String)
deriving DecidableEq, Repr

/-- A comparison, whose truth nothing else in a condition determines. -/
structure Atom where
  left : Operand
  relation : Relation
  right : Operand
deriving DecidableEq, Repr

/-- A condition as a database understands it. -/
inductive Formula where
  | atom (atom : Atom)
  | not (operand : Formula)
  | and (left right : Formula)
  | or (left right : Formula)
deriving DecidableEq, Repr

/-- What a condition says: its comparisons from left to right, and how their truth decides its
own. -/
@[ext] structure Meaning where
  atoms : List Atom
  holds : (Atom → Bool) → Bool

namespace Meaning

/-- One comparison. -/
def ofAtom (atom : Atom) : Meaning := ⟨[atom], fun truth => truth atom⟩

/-- The opposite. -/
def not (meaning : Meaning) : Meaning := ⟨meaning.atoms, fun truth => !meaning.holds truth⟩

/-- Both of two. -/
def and (left right : Meaning) : Meaning :=
  ⟨left.atoms ++ right.atoms, fun truth => left.holds truth && right.holds truth⟩

/-- One of two or both. -/
def or (left right : Meaning) : Meaning :=
  ⟨left.atoms ++ right.atoms, fun truth => left.holds truth || right.holds truth⟩

/-- All of several. -/
def all (meanings : List Meaning) : Meaning :=
  ⟨meanings.flatMap atoms, fun truth => meanings.all (·.holds truth)⟩

/-- At least one of several. -/
def any (meanings : List Meaning) : Meaning :=
  ⟨meanings.flatMap atoms, fun truth => meanings.any (·.holds truth)⟩

end Meaning

/-- The meaning of a formula. -/
def Formula.meaning : Formula → Meaning
  | .atom comparison => .ofAtom comparison
  | .not operand => operand.meaning.not
  | .and left right => left.meaning.and right.meaning
  | .or left right => left.meaning.or right.meaning

/-- A formula behind a number of negations. -/
def Formula.negate (formula : Formula) : Nat → Formula
  | 0 => formula
  | count + 1 => .not (formula.negate count)

namespace Reader

/-- What waits for the operand to come: the left side of a disjunction, the left side of a
conjunction, and negations. -/
structure Level where
  disjunction : Option Formula := none
  conjunction : Option Formula := none
  negations : Nat := 0

/-- The conjunction that ends with an operand. -/
def Level.conjoin (level : Level) (operand : Formula) : Formula :=
  match level.conjunction with
  | none => operand.negate level.negations
  | some left => .and left (operand.negate level.negations)

/-- The disjunction that ends with an operand. -/
def Level.disjoin (level : Level) (operand : Formula) : Formula :=
  match level.disjunction with
  | none => level.conjoin operand
  | some left => .or left (level.conjoin operand)

/-- How far the current operand of a connective has been read. `side` is what stands to the left of
the comparison's operand, if that is its right one; `within` tells whether a path stands in the
parentheses of `ANY`. -/
inductive Focus where
  | operand (side : Option (Operand × Relation))
  | any (side : Operand × Relation)
  | part (side : Option (Operand × Relation)) (within : Bool) (parts : List String)
  | path (side : Option (Operand × Relation)) (within : Bool) (parts : List String)
  | value (side : Option (Operand × Relation)) (operand : Operand)
  | formula (formula : Formula)

/-- The left side of a comparison, if it may end here. -/
def Focus.left? : Focus → Option Operand
  | .path none false parts => some (.column parts)
  | .value none found => some found
  | _ => none

/-- The operand of a connective, if it may end here. -/
def Focus.formula? : Focus → Option Formula
  | .path (some (left, relation)) false parts => some (.atom ⟨left, relation, .column parts⟩)
  | .value (some (left, relation)) right => some (.atom ⟨left, relation, right⟩)
  | .formula found => some found
  | _ => none

/-- A state of the reader: what waits outside the open parentheses, from the inside out, what waits
inside the innermost of them, and the current operand. -/
structure State where
  outer : List Level := []
  level : Level := {}
  focus : Focus := .operand none

/-- The relation that a lexeme stands for. -/
def relation? : Lexeme → Option Relation
  | .relation relation => some relation
  | .keyword .like => some .like
  | _ => none

namespace State

/-- Reads the lexeme after a complete operand of a connective. -/
def connect? (state : State) (formula : Formula) : Lexeme → Option State
  | .keyword .and =>
    let level := { state.level with
      conjunction := some (state.level.conjoin formula)
      negations := 0 }
    some ⟨state.outer, level, .operand none⟩
  | .keyword .or =>
    some ⟨state.outer, { disjunction := some (state.level.disjoin formula) }, .operand none⟩
  | .rightParen =>
    match state.outer with
    | [] => none
    | level :: outer => some ⟨outer, level, .formula (state.level.disjoin formula)⟩
  | _ => none

/-- Reads the lexeme after a complete operand of a comparison or of a connective. -/
def extend? (state : State) (lexeme : Lexeme) : Option State :=
  match state.focus.left?, relation? lexeme with
  | some left, some relation => some { state with focus := .operand (some (left, relation)) }
  | _, _ =>
    match state.focus.formula? with
    | some formula => state.connect? formula lexeme
    | none => none

/-- Reads one lexeme, unless it cannot stand here. -/
def read? (state : State) (lexeme : Lexeme) : Option State :=
  match state.focus, lexeme with
  | .operand none, .keyword .not =>
    some { state with level := { state.level with negations := state.level.negations + 1 } }
  | .operand none, .leftParen => some { outer := state.level :: state.outer }
  | .operand side, .identifier name => some { state with focus := .path side false [name] }
  | .operand side, .argument name => some { state with focus := .value side (.argument name) }
  | .operand (some side), .keyword .any => some { state with focus := .any side }
  | .any side, .leftParen => some { state with focus := .part (some side) true [] }
  | .part side within parts, .identifier name =>
    some { state with focus := .path side within (parts ++ [name]) }
  | .path side within parts, .dot => some { state with focus := .part side within parts }
  | .path side true parts, .rightParen => some { state with focus := .value side (.anyOf parts) }
  | _, lexeme => state.extend? lexeme

/-- Reads lexemes one after the other. -/
def run? (state : State) : List Lexeme → Option State
  | [] => some state
  | lexeme :: rest =>
    match state.read? lexeme with
    | some next => next.run? rest
    | none => none

/-- The formula that has been read, if it may end here. -/
def finish? (state : State) : Option Formula :=
  match state.outer, state.focus.formula? with
  | [], some formula => some (state.level.disjoin formula)
  | _, _ => none

end State

end Reader

/-- The formula that the text of a condition spells. -/
def readCondition? (text : String) : Option Formula := do
  let lexemes ← Lexeme.lex? text
  let state ← Reader.State.run? {} lexemes
  state.finish?

end FilterQuery.Sql
