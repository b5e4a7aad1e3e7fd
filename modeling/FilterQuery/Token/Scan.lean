import FilterQuery.Token.Basic
import FilterQuery.Token.Pattern

/-!
# Reading tokens from text

A text is read from left to right. At each place the lexical classes are tried in a fixed order,
and the first that fits names the token. A character that starts no token is stray: it is reported
and reading goes on behind it, so that all stray characters of a text are found.

A minus sign belongs to a number only directly after a comparator; everywhere else it is a token of
its own.

Texts are sequences of Unicode characters. What becomes of bytes that encode no characters is not
described.
-/

namespace FilterQuery

/-- The characters that separate tokens and belong to none. -/
def isSeparator (c : Char) : Bool :=
  c == ' ' || c == '\t' || c == '\n' || c == '\r' || c == '\x0c'

/-- The characters that end a word besides the end of the text. -/
def isDelimiter (c : Char) : Bool := " \t\r\n()=<>!:.,".toList.contains c

/-- Whether a word may end before the given rest of the text. -/
def endsWord : List Char → Bool
  | [] => true
  | c :: _ => isDelimiter c

/-- The characters that no text token contains. -/
def isReserved (c : Char) : Bool := isSeparator c || "()=<>!:.,\"".toList.contains c

/-- A lexical class with the pattern of its tokens. The tokens of a delimited class are whole words:
a delimiter or the end of the text follows them. -/
structure LexicalClass where
  kind : TokenKind
  pattern : Pattern
  delimited : Bool

namespace LexicalClass

open Pattern

/-- The comparison signs, the longer ones first. -/
def comparatorPattern : Pattern :=
  choice (word "<=") <| choice (word ">=") <| choice (word "!=") <| choice (word "<") <|
    choice (word ">") <| choice (word "=") (word ":")

/-- Text between double quotation marks; a backslash takes the next character with it, which is no
line feed. -/
def stringPattern : Pattern :=
  all [is '"',
    many (choice (char fun c => c != '"' && c != '\\') (seq (is '\\') (char fun c => c != '\n'))),
    is '"']

/-- A calendar date, then optionally a time of day with minutes, seconds and a fraction, and an
offset from universal time. -/
def datetimePattern : Pattern :=
  all [digits 4, is '-', digits 2, is '-', digits 2,
    optionally <| all [oneOf "Tt", digits 2, is ':', digits 2,
      optionally <| all [is ':', digits 2, optionally (all [is '.', number])],
      optionally <| choice (oneOf "Zz") (all [oneOf "+-", digits 2, is ':', digits 2])]]

/-- A number of seconds. -/
def durationPattern : Pattern :=
  all [optionally (is '-'), number, optionally (all [is '.', number]), is 's']

/-- A power of ten. -/
def exponentPattern : Pattern := all [oneOf "eE", optionally (oneOf "+-"), number]

/-- A number with a fraction, an exponent or both. -/
def floatPattern : Pattern :=
  seq (optionally (is '-')) <|
    choice (all [number, is '.', number, optionally exponentPattern]) (seq number exponentPattern)

/-- A whole number. -/
def integerPattern : Pattern := seq (optionally (is '-')) number

/-- Any run of unreserved characters that does not start with a minus sign. -/
def textPattern : Pattern :=
  seq (char fun c => !isReserved c && c != '-') (many (char fun c => !isReserved c))

/-- The lexical classes in the order in which they are tried. -/
def table : List LexicalClass := [
  ⟨.leftParen, is '(', false⟩,
  ⟨.rightParen, is ')', false⟩,
  ⟨.comparator, comparatorPattern, false⟩,
  ⟨.dot, is '.', false⟩,
  ⟨.string, stringPattern, false⟩,
  ⟨.and, word "AND", true⟩,
  ⟨.or, word "OR", true⟩,
  ⟨.not, word "NOT", true⟩,
  ⟨.boolean, choice (word "true") (word "false"), true⟩,
  ⟨.datetime, datetimePattern, true⟩,
  ⟨.duration, durationPattern, true⟩,
  ⟨.float, floatPattern, true⟩,
  ⟨.integer, integerPattern, true⟩,
  ⟨.asterisk, is '*', true⟩,
  ⟨.text, textPattern, false⟩]

/-- The token of a class at the head of a text. -/
def lexeme? (lexicalClass : LexicalClass) (text : List Char) : Option (List Char) :=
  match lexicalClass.pattern.split? text with
  | some (lexeme, rest) => if lexicalClass.delimited && !endsWord rest then none else some lexeme
  | none => none

end LexicalClass

/-- Whether a text starts with a minus sign that is not the sign of a number: no comparator stands
before it, or no digit follows it. -/
def startsNegation (afterComparator : Bool) : List Char → Bool
  | '-' :: c :: _ => !(afterComparator && c.isDigit)
  | ['-'] => true
  | _ => false

/-- The token at the head of a text that starts with no separator. -/
def nextToken? (afterComparator : Bool) (text : List Char) : Option (TokenKind × List Char) :=
  if startsNegation afterComparator text then some (.minus, ['-'])
  else LexicalClass.table.findSome? fun lexicalClass =>
    (lexicalClass.lexeme? text).map (lexicalClass.kind, ·)

/-- A character that starts no token. -/
structure Stray where
  character : Char
  position : Nat
deriving DecidableEq, Repr

/-- What was read from a text: its tokens, and the characters that belong to none. -/
structure Scan where
  tokens : List Token
  strays : List Stray
deriving DecidableEq, Repr

/-- Reads a text whose first character stands at `position`. The first `pending` characters belong
to the token before them; `afterComparator` tells whether that token is a comparator. -/
def scanFrom (position : Nat) (afterComparator : Bool) (pending : Nat) : List Char → Scan
  | [] => ⟨[], []⟩
  | c :: rest =>
    match pending with
    | pending + 1 => scanFrom (position + c.utf8Size) afterComparator pending rest
    | 0 =>
      if isSeparator c then scanFrom (position + c.utf8Size) afterComparator 0 rest
      else
        match nextToken? afterComparator (c :: rest) with
        | some (kind, lexeme) =>
          let scan :=
            scanFrom (position + c.utf8Size) (kind == .comparator) (lexeme.length - 1) rest
          { scan with tokens := ⟨kind, String.ofList lexeme, position⟩ :: scan.tokens }
        | none =>
          let scan := scanFrom (position + c.utf8Size) afterComparator 0 rest
          { scan with strays := ⟨c, position⟩ :: scan.strays }

/-- Reads a whole text. -/
def scan (text : String) : Scan := scanFrom 0 false 0 text.toList

/-- The tokens of a text, or all its stray characters if it has any. -/
def tokenize (text : String) : Except (List Stray) TokenList :=
  let result := scan text
  match result.strays with
  | [] => .ok ⟨result.tokens, Text.utf8Length text.toList⟩
  | strays => .error strays

end FilterQuery
