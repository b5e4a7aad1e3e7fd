import FilterQuery.Text.Quoted

/-!
# Tokens

The words of the filter language, each with its lexical class, its text and the byte position at
which it starts.
-/

namespace FilterQuery

/-- The lexical classes. -/
inductive TokenKind where
  | leftParen
  | rightParen
  | dot
  | comparator
  | and
  | or
  | not
  | minus
  | string
  | datetime
  | duration
  | float
  | integer
  | boolean
  | asterisk
  | text
deriving DecidableEq, Repr

/-- The name of a class in listings and messages. -/
def TokenKind.name : TokenKind → String
  | .leftParen => "LPAREN"
  | .rightParen => "RPAREN"
  | .dot => "DOT"
  | .comparator => "COMPARATOR"
  | .and => "AND"
  | .or => "OR"
  | .not => "NOT"
  | .minus => "MINUS"
  | .string => "STRING"
  | .datetime => "DATETIME"
  | .duration => "DURATION"
  | .float => "FLOAT"
  | .integer => "INTEGER"
  | .boolean => "BOOLEAN"
  | .asterisk => "ASTERISK"
  | .text => "TEXT"

/-- A word of a filter text. Positions count UTF-8 bytes from the start of the text. -/
structure Token where
  kind : TokenKind
  text : String
  position : Nat
deriving DecidableEq, Repr

/-- The words of a whole text, with the position at which the text ends. -/
structure TokenList where
  tokens : List Token
  stop : Nat
deriving DecidableEq, Repr

/-- One line of a token listing: the name of the class, the text and the position. -/
structure TokenLine where
  name : String
  text : String
  position : Nat
deriving DecidableEq, Repr

/-- The line that lists a token. -/
def Token.line (token : Token) : TokenLine := ⟨token.kind.name, token.text, token.position⟩

/-- The listing of a text: its words in order, then the end of the text. -/
def TokenList.listing (list : TokenList) : List TokenLine :=
  list.tokens.map Token.line ++ [⟨"EOF", "", list.stop⟩]

/-- A listed token as one word of prose. -/
def TokenLine.describe (line : TokenLine) : String :=
  "Token(" ++ line.name ++ ", " ++ Text.quote line.text ++ ")"

end FilterQuery
