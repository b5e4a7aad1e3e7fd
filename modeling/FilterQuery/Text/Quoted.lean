import FilterQuery.Text.Hex
import FilterQuery.Text.Printable

/-!
# Quoted text

How error messages quote text and single characters: printable characters stand as they are, the
quotation mark and the backslash get a backslash, and all else is written as an escape.
-/

namespace FilterQuery.Text

/-- The letter of the short escapes, such as `n` for a line feed. -/
def shortEscape? (c : Char) : Option Char :=
  match c.toNat with
  | 7 => some 'a'
  | 8 => some 'b'
  | 9 => some 't'
  | 10 => some 'n'
  | 11 => some 'v'
  | 12 => some 'f'
  | 13 => some 'r'
  | _ => none

/-- A numeric escape: two digits for control characters, four or eight for other code points. -/
def numericEscape (c : Char) : List Char :=
  let code := c.toNat
  if code < 0x20 ∨ code = 0x7f then '\\' :: 'x' :: hexDigits 2 code
  else if code < 0x10000 then '\\' :: 'u' :: hexDigits 4 code
  else '\\' :: 'U' :: hexDigits 8 code

/-- How one character is written between quotation marks `mark`. -/
def quotedChar (mark c : Char) : List Char :=
  if c = mark ∨ c = '\\' then ['\\', c]
  else if isPrintable c then [c]
  else
    match shortEscape? c with
    | some letter => ['\\', letter]
    | none => numericEscape c

/-- A text between double quotation marks. -/
def quote (text : String) : String :=
  String.ofList ('"' :: text.toList.flatMap (quotedChar '"') ++ ['"'])

/-- The single quotation mark. -/
def apostrophe : Char := Char.ofNat 0x27

/-- A character between single quotation marks. -/
def quoteChar (c : Char) : String :=
  String.ofList (apostrophe :: quotedChar apostrophe c ++ [apostrophe])

/-- The quotation of the first `count` bytes of a text. A character cut by the limit is written as
the escapes of its bytes before the limit. -/
def quoteBytes (count : Nat) (text : String) : String :=
  let rec body : Nat → List Char → List Char
    | _, [] => []
    | left, c :: rest =>
      if c.utf8Size ≤ left then quotedChar '"' c ++ body (left - c.utf8Size) rest
      else ((String.utf8EncodeChar c).take left).flatMap fun byte =>
        '\\' :: 'x' :: hexDigits 2 byte.toNat
  String.ofList ('"' :: body count text.toList ++ ['"'])

/-- A text between double quotation marks with every byte outside ASCII, and every control byte
below the space, written as an escape. -/
def quoteAscii (text : String) : String :=
  let body := text.toList.flatMap fun c =>
    if c.toNat < 0x20 ∨ 0x80 ≤ c.toNat then
      (String.utf8EncodeChar c).flatMap fun byte => '\\' :: 'x' :: hexDigits 2 byte.toNat
    else if c = '"' ∨ c = '\\' then ['\\', c]
    else [c]
  String.ofList ('"' :: body ++ ['"'])

/-- A code point with its standard name and, if printable, the character itself in quotes. -/
def codePointName (c : Char) : String :=
  let name := "U+" ++ (hexText 4 c.toNat).toUpper
  if isPrintable c then name ++ " " ++ String.ofList [apostrophe, c, apostrophe] else name

end FilterQuery.Text
