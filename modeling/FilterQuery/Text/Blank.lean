/-!
# Blank text

The characters that the Unicode standard counts as white space. A text of nothing else is blank.
-/

namespace FilterQuery.Text

/-- Whether a character has the white space property. -/
def isSpace (c : Char) : Bool :=
  let code := c.toNat
  (9 ≤ code && code ≤ 13) || code == 0x20 || code == 0x85 || code == 0xa0 || code == 0x1680 ||
    (0x2000 ≤ code && code ≤ 0x200a) || code == 0x2028 || code == 0x2029 || code == 0x202f ||
    code == 0x205f || code == 0x3000

/-- Whether a text holds nothing but white space. -/
def isBlank (text : String) : Bool := text.toList.all isSpace

/-- A list of characters without the white space at its two ends. -/
def trimSpace (text : List Char) : List Char :=
  ((text.dropWhile isSpace).reverse.dropWhile isSpace).reverse

end FilterQuery.Text
