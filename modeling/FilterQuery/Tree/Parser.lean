import FilterQuery.Tree.Basic
import FilterQuery.Token.Scan
import FilterQuery.Text.Blank

/-!
# Parsing

The grammar:

    expression  := sequence (AND sequence)*
    sequence    := factor factor*
    factor      := term (OR term)*
    term        := [NOT | MINUS] simple
    simple      := restriction | '(' expression ')'
    restriction := member [COMPARATOR argument]
    argument    := member | '(' expression ')'
    member      := value (DOT field)*
    field       := value | AND | OR | NOT

The parser is a machine that takes one token at a time. Its state holds what is complete of every
open group and how far the current term has been read, so a token is refused exactly when nothing
that starts with the tokens up to it is in the grammar.

As with tokens, the texts that are parsed are sequences of Unicode characters; bytes that encode
none are left out.
-/

namespace FilterQuery

/-- The class of literals that a token stands for. -/
def TokenKind.literal? : TokenKind → Option LiteralKind
  | .string => some .string
  | .datetime => some .datetime
  | .duration => some .duration
  | .float => some .float
  | .integer => some .integer
  | .boolean => some .boolean
  | .asterisk => some .asterisk
  | .text => some .text
  | _ => none

/-- The literal that a token stands for. -/
def Token.literal? (token : Token) : Option Literal :=
  token.kind.literal?.map (⟨·, token.text, token.position⟩)

/-- The literal that a token stands for after a dot, where keywords are names like any other. -/
def Token.field? (token : Token) : Option Literal :=
  match token.kind with
  | .and | .or | .not => some ⟨.text, token.text, token.position⟩
  | _ => token.literal?

namespace Parser

/-- An expression of which a beginning is complete: its finished sequences, the finished factors of
the current sequence and the finished terms of the current factor. -/
structure Progress where
  sequences : List Sequence := []
  factors : List Factor := []
  terms : List Term := []

namespace Progress

/-- Completes a term. -/
def addTerm (progress : Progress) (term : Term) : Progress :=
  { progress with terms := progress.terms ++ [term] }

/-- Completes the current factor. -/
def closeFactor (progress : Progress) : Progress :=
  { progress with factors := progress.factors ++ [progress.terms], terms := [] }

/-- Completes the current factor and the current sequence. -/
def closeSequence (progress : Progress) : Progress :=
  { sequences := progress.sequences ++ [progress.factors ++ [progress.terms]] }

/-- The expression that ends here. -/
def expression (progress : Progress) : Expression := progress.closeSequence.sequences

end Progress

/-- What a parenthesis was opened for: a group of its own, or the argument of a restriction. -/
inductive Opening where
  | group (negated : Bool)
  | argument (negated : Bool) (field : Member) (comparator : String)

/-- The term that an opening and the expression in its parentheses make up. -/
def Opening.term : Opening → Expression → Term
  | .group negated, expression => .mk negated (.group expression)
  | .argument negated field comparator, expression =>
    .mk negated (.compareEach field comparator expression)

/-- An open parenthesis, with the expression around it. -/
structure Frame where
  opening : Opening
  outer : Progress

/-- How far the current term has been read: not at all, its negation, a member on the left, a dot
after it, a comparator, a member on the right, a dot after that, or all of it. -/
inductive Focus where
  | start
  | negation
  | member (negated : Bool) (field : Member)
  | memberDot (negated : Bool) (field : Member)
  | compared (negated : Bool) (field : Member) (comparator : String)
  | argument (negated : Bool) (field : Member) (comparator : String) (value : Member)
  | argumentDot (negated : Bool) (field : Member) (comparator : String) (value : Member)
  | closed (term : Term)

/-- The term, if it may end here. -/
def Focus.term? : Focus → Option Term
  | .member negated field => some (.mk negated (.bare field))
  | .argument negated field comparator value =>
    some (.mk negated (.compare field comparator (some value)))
  | .closed term => some term
  | _ => none

/-- A state of the parser: the open parentheses from the inside out, the expression inside the
innermost of them, and the current term. -/
structure State where
  frames : List Frame := []
  progress : Progress := {}
  focus : Focus := .start

namespace State

/-- Opens a parenthesis. -/
def openGroup (state : State) (opening : Opening) : State :=
  { frames := ⟨opening, state.progress⟩ :: state.frames }

/-- Reads the first token of a condition. -/
def startSimple? (state : State) (negated : Bool) (token : Token) : Option State :=
  match token.kind with
  | .leftParen => some (state.openGroup (.group negated))
  | _ => token.literal?.map fun literal =>
    { state with focus := .member negated (.ofLiteral literal) }

/-- Reads the first token of a term. -/
def startTerm? (state : State) (token : Token) : Option State :=
  match token.kind with
  | .not | .minus => some { state with focus := .negation }
  | _ => state.startSimple? false token

/-- Reads the token after a complete term. -/
def continueAfter? (state : State) (term : Term) (token : Token) : Option State :=
  let progress := state.progress.addTerm term
  match token.kind with
  | .and => some { state with progress := progress.closeSequence, focus := .start }
  | .or => some { state with progress := progress, focus := .start }
  | .rightParen =>
    match state.frames with
    | [] => none
    | frame :: frames => some
      { frames := frames
        progress := frame.outer
        focus := .closed (frame.opening.term progress.expression) }
  | _ => startTerm? { state with progress := progress.closeFactor } token

/-- Reads one token, unless it cannot stand here. -/
def step? (state : State) (token : Token) : Option State :=
  match state.focus with
  | .start => state.startTerm? token
  | .negation => state.startSimple? true token
  | .member negated field =>
    match token.kind with
    | .dot => some { state with focus := .memberDot negated field }
    | .comparator => some { state with focus := .compared negated field token.text }
    | _ => state.continueAfter? (.mk negated (.bare field)) token
  | .memberDot negated field =>
    token.field?.map fun part => { state with focus := .member negated (field.extend part) }
  | .compared negated field comparator =>
    match token.kind with
    | .leftParen => some (state.openGroup (.argument negated field comparator))
    | _ => token.literal?.map fun literal =>
      { state with focus := .argument negated field comparator (.ofLiteral literal) }
  | .argument negated field comparator value =>
    match token.kind with
    | .dot => some { state with focus := .argumentDot negated field comparator value }
    | _ => state.continueAfter? (.mk negated (.compare field comparator (some value))) token
  | .argumentDot negated field comparator value =>
    token.field?.map fun part =>
      { state with focus := .argument negated field comparator (value.extend part) }
  | .closed term => state.continueAfter? term token

/-- The expression that has been read, if it may end here. -/
def finish? (state : State) : Option Expression :=
  match state.frames, state.focus.term? with
  | [], some term => some (state.progress.addTerm term).expression
  | _, _ => none

end State

/-- Reads tokens until one is refused. The refused token is returned; at the end of the tokens of an
incomplete expression there is none. -/
def run (state : State) : List Token → Except (Option Token) Expression
  | [] =>
    match state.finish? with
    | some expression => .ok expression
    | none => .error none
  | token :: rest =>
    match state.step? token with
    | some next => run next rest
    | none => .error (some token)

end Parser

/-- Why a text is no filter: it is blank, it has characters that start no token, or the token that
stands at a position, if any is left, cannot stand there. -/
inductive ParseError where
  | blank
  | strays (found : List Stray)
  | unexpected (position : Nat) (token : Option Token)
deriving DecidableEq, Repr

/-- The expression that a list of tokens spells. -/
def parseTokens (list : TokenList) : Except ParseError Expression :=
  match Parser.run {} list.tokens with
  | .ok expression => .ok expression
  | .error (some token) => .error (.unexpected token.position (some token))
  | .error none => .error (.unexpected list.stop none)

/-- The expression that a text spells. -/
def parse (text : String) : Except ParseError Expression :=
  if Text.isBlank text then .error .blank
  else
    match tokenize text with
    | .error strays => .error (.strays strays)
    | .ok list => parseTokens list

/-- A complaint about a place in the text. -/
def syntaxMessage (position : Nat) (complaint : String) : String :=
  "syntax error at position " ++ toString position ++ ": " ++ complaint

/-- The complaint about a stray character. -/
def Stray.message (stray : Stray) : String :=
  syntaxMessage stray.position ("unexpected character " ++ Text.quoteChar stray.character)

/-- The complaints about all the stray characters of a text, one to a line. -/
def straysMessage (strays : List Stray) : String :=
  let heading :=
    if strays.length = 1 then "1 error occurred:"
    else toString strays.length ++ " errors occurred:"
  heading ++ "\n\t" ++ "\n\t".intercalate (strays.map ("* " ++ ·.message)) ++ "\n\n"

/-- The wording of a parse error. -/
def ParseError.message : ParseError → String
  | .blank => "empty filter"
  | .strays found => straysMessage found
  | .unexpected position none => syntaxMessage position "unexpected end of filter"
  | .unexpected position (some token) =>
    syntaxMessage position ("unexpected " ++ token.kind.name ++ " " ++ Text.quote token.text)

end FilterQuery
