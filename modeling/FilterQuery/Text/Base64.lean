/-!
# Base sixty-four

Bytes as text, three bytes in four characters, with padding at the end.
-/

namespace FilterQuery.Text

/-- The digits of base sixty-four. -/
def base64Alphabet : List Char :=
  "ABCDEFGHIJKLMNOPQRSTUVWXYZabcdefghijklmnopqrstuvwxyz0123456789+/".toList

/-- The digit of a number below sixty-four. -/
def base64Digit (n : Nat) : Char := base64Alphabet.getD (n % 64) '='

/-- The digits of bytes. -/
def base64Digits : List UInt8 → List Char
  | [] => []
  | [a] =>
    let n := a.toNat * 2 ^ 16
    [base64Digit (n / 2 ^ 18), base64Digit (n / 2 ^ 12), '=', '=']
  | [a, b] =>
    let n := a.toNat * 2 ^ 16 + b.toNat * 2 ^ 8
    [base64Digit (n / 2 ^ 18), base64Digit (n / 2 ^ 12), base64Digit (n / 2 ^ 6), '=']
  | a :: b :: c :: rest =>
    let n := a.toNat * 2 ^ 16 + b.toNat * 2 ^ 8 + c.toNat
    base64Digit (n / 2 ^ 18) :: base64Digit (n / 2 ^ 12) :: base64Digit (n / 2 ^ 6) ::
      base64Digit n :: base64Digits rest

/-- Bytes in base sixty-four. -/
def base64 (bytes : List UInt8) : String := String.ofList (base64Digits bytes)

end FilterQuery.Text
