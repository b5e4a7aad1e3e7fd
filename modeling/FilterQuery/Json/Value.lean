import FilterQuery.Number.Reading
import FilterQuery.Text.Hex

/-!
# JSON values

Reading JSON text. Numbers are floating-point numbers, and halves of characters that stand alone
become replacement characters.
-/

namespace FilterQuery

/-- A JSON value. Fields stand in the order of the text, also those with the same key. -/
inductive JsonValue where
  | null
  | boolean (value : Bool)
  | number (value : Binary64)
  | string (value : String)
  | array (items : List JsonValue)
  | object (fields : List (String × JsonValue))

namespace JsonValue

/-- Whether a character may stand between the parts of a value. -/
def isBlank (c : Char) : Bool := c == ' ' || c == '\t' || c == '\n' || c == '\r'

/-- The text after what may stand between the parts of a value. -/
def skipBlank (text : List Char) : List Char := text.dropWhile isBlank

/-- A part of a string: a character, or one of the sixteen-bit units that spell characters. -/
inductive Piece where
  | char (c : Char)
  | unit (n : Nat)

/-- The value of four hexadecimal digits. -/
def fourDigits? (digits : List Char) : Option Nat :=
  digits.foldlM (fun n c =>
    if c.toNat < 0x80 then (Text.hexValue? (UInt8.ofNat c.toNat)).map (n * 16 + ·) else none) 0

/-- The character that the letter of a short escape stands for. -/
def escaped? : Char → Option Char
  | '"' => some '"'
  | '\\' => some '\\'
  | '/' => some '/'
  | 'b' => some (Char.ofNat 8)
  | 'f' => some (Char.ofNat 12)
  | 'n' => some '\n'
  | 'r' => some '\r'
  | 't' => some '\t'
  | _ => none

/-- The pieces of a string up to its closing quotation mark, and what follows it. -/
def takePieces? : List Char → Option (List Piece × List Char)
  | [] => none
  | '"' :: rest => some ([], rest)
  | '\\' :: 'u' :: a :: b :: c :: d :: rest => do
    let n ← fourDigits? [a, b, c, d]
    let (pieces, rest) ← takePieces? rest
    pure (.unit n :: pieces, rest)
  | '\\' :: letter :: rest => do
    let c ← escaped? letter
    let (pieces, rest) ← takePieces? rest
    pure (.char c :: pieces, rest)
  | c :: rest => do
    if c.toNat < 0x20 then none
    let (pieces, rest) ← takePieces? rest
    pure (.char c :: pieces, rest)

/-- The character that two units spell together. -/
def joinUnits? (high low : Nat) : Option Char :=
  if 0xd800 ≤ high ∧ high < 0xdc00 ∧ 0xdc00 ≤ low ∧ low < 0xe000 then
    some (Char.ofNat (0x10000 + (high - 0xd800) * 0x400 + (low - 0xdc00)))
  else none

/-- The character that a unit spells alone. -/
def unitChar (n : Nat) : Char :=
  if 0xd800 ≤ n ∧ n < 0xe000 then Char.ofNat 0xfffd else Char.ofNat n

/-- The characters that pieces spell. -/
def joinPieces : List Piece → List Char
  | [] => []
  | .char c :: rest => c :: joinPieces rest
  | [.unit n] => [unitChar n]
  | .unit high :: .char c :: rest => unitChar high :: c :: joinPieces rest
  | .unit high :: .unit low :: rest =>
    match joinUnits? high low with
    | some c => c :: joinPieces rest
    | none => unitChar high :: joinPieces (.unit low :: rest)

/-- The rest of a string after its opening quotation mark. -/
def takeString? (text : List Char) : Option (String × List Char) :=
  (takePieces? text).map fun (pieces, rest) => (String.ofList (joinPieces pieces), rest)

/-- Whether a character may stand in a number. -/
def isNumberChar (c : Char) : Bool :=
  c.isDigit || c == '-' || c == '+' || c == '.' || c == 'e' || c == 'E'

/-- The text after at least one digit. -/
def afterDigits? : List Char → Option (List Char)
  | c :: rest => if c.isDigit then some (rest.dropWhile Char.isDigit) else none
  | [] => none

/-- The text after the whole part of a number, which has no needless zero before it. -/
def afterWhole? : List Char → Option (List Char)
  | '0' :: rest => some rest
  | text => afterDigits? text

/-- The text after the fraction of a number, if it has one. -/
def afterFraction? : List Char → Option (List Char)
  | '.' :: rest => afterDigits? rest
  | text => some text

/-- The text after the exponent of a number, if it has one. -/
def afterExponent? : List Char → Option (List Char)
  | c :: rest =>
    if c = 'e' ∨ c = 'E' then
      match rest with
      | '+' :: digits | '-' :: digits => afterDigits? digits
      | digits => afterDigits? digits
    else some (c :: rest)
  | [] => some []

/-- Whether a text is a number in the form that JSON asks for. -/
def isNumber (text : List Char) : Bool :=
  let unsigned := match text with
    | '-' :: rest => rest
    | rest => rest
  ((afterWhole? unsigned).bind afterFraction? |>.bind afterExponent?) == some []

/-- A number, and what follows it. -/
def takeNumber? (text : List Char) : Option (JsonValue × List Char) :=
  let digits := text.takeWhile isNumberChar
  if isNumber digits then
    match Number.readFloat (String.ofList digits) with
    | .ok x => some (.number x, text.dropWhile isNumberChar)
    | .error _ => none
  else none

/-- The text after a word. -/
def afterWord? : (word : List Char) → List Char → Option (List Char)
  | [], text => some text
  | c :: word, d :: text => if c = d then afterWord? word text else none
  | _ :: _, [] => none

/-- A value that is a word or a number, and what follows it. -/
def takeScalar? (text : List Char) : Option (JsonValue × List Char) :=
  match afterWord? "null".toList text with
  | some rest => some (.null, rest)
  | none =>
    match afterWord? "true".toList text with
    | some rest => some (.boolean true, rest)
    | none =>
      match afterWord? "false".toList text with
      | some rest => some (.boolean false, rest)
      | none => takeNumber? text

mutual

/-- A value, and what follows it. The limit bounds the number of nested steps. -/
def take? : (limit : Nat) → List Char → Option (JsonValue × List Char)
  | 0, _ => none
  | limit + 1, text =>
    match skipBlank text with
    | '"' :: rest => (takeString? rest).map fun (s, rest) => (.string s, rest)
    | '[' :: rest =>
      match skipBlank rest with
      | ']' :: rest => some (.array [], rest)
      | rest => (takeItems? limit rest).map fun (items, rest) => (.array items, rest)
    | '\x7b' :: rest =>
      match skipBlank rest with
      | '\x7d' :: rest => some (.object [], rest)
      | rest => (takeFields? limit rest).map fun (fields, rest) => (.object fields, rest)
    | rest => takeScalar? rest

/-- The items of an array up to its end, and what follows it. -/
def takeItems? : (limit : Nat) → List Char → Option (List JsonValue × List Char)
  | 0, _ => none
  | limit + 1, text => do
    let (item, rest) ← take? limit text
    match skipBlank rest with
    | ']' :: rest => pure ([item], rest)
    | ',' :: rest =>
      let (items, rest) ← takeItems? limit rest
      pure (item :: items, rest)
    | _ => none

/-- The fields of an object up to its end, and what follows it. -/
def takeFields? : (limit : Nat) → List Char → Option (List (String × JsonValue) × List Char)
  | 0, _ => none
  | limit + 1, text =>
    match skipBlank text with
    | '"' :: rest => do
      let (key, rest) ← takeString? rest
      match skipBlank rest with
      | ':' :: rest =>
        let (value, rest) ← take? limit rest
        match skipBlank rest with
        | '\x7d' :: rest => pure ([(key, value)], rest)
        | ',' :: rest =>
          let (fields, rest) ← takeFields? limit rest
          pure ((key, value) :: fields, rest)
        | _ => none
      | _ => none
    | _ => none

end

/-- The value that a text spells. Every nested step takes a character, so the length of the text is
limit enough. -/
def read? (text : String) : Option JsonValue :=
  match take? (text.length + 2) text.toList with
  | some (value, rest) => if (skipBlank rest).isEmpty then some value else none
  | none => none

end JsonValue

end FilterQuery
