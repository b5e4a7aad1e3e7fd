import FilterQuery.Text.Hex

/-!
# JSON text

How JSON strings are written: the quotation mark, the backslash, control characters and the two line
separators are escaped, and for text that goes into a page also the marks of its tags.
-/

namespace FilterQuery.Json

/-- The letter of the short escapes. -/
def shortEscape? (c : Char) : Option Char :=
  match c.toNat with
  | 8 => some 'b'
  | 9 => some 't'
  | 10 => some 'n'
  | 12 => some 'f'
  | 13 => some 'r'
  | 0x22 => some '"'
  | 0x5c => some '\\'
  | _ => none

/-- Whether a character is written by its code point. -/
def needsCode (escapeTags : Bool) (c : Char) : Bool :=
  c.toNat < 0x20 || c.toNat == 0x2028 || c.toNat == 0x2029 ||
    escapeTags && (c == '<' || c == '>' || c == '&')

/-- How a character is written inside a string. -/
def escapeChar (escapeTags : Bool) (c : Char) : List Char :=
  match shortEscape? c with
  | some letter => ['\\', letter]
  | none =>
    if needsCode escapeTags c then '\\' :: 'u' :: Text.hexDigits 4 c.toNat else [c]

/-- A text as a JSON string. -/
def quote (escapeTags : Bool) (text : String) : String :=
  String.ofList ('"' :: text.toList.flatMap (escapeChar escapeTags) ++ ['"'])

/-- An object whose values are written already. -/
def object (escapeTags : Bool) (fields : List (String × String)) : String :=
  "\x7b" ++ ",".intercalate (fields.map fun (key, value) => quote escapeTags key ++ ":" ++ value) ++
    "\x7d"

/-- An array whose items are written already. -/
def array (items : List String) : String := "[" ++ ",".intercalate items ++ "]"

end FilterQuery.Json
