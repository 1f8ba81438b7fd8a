/-!
# Hex — hexadecimal digits
-/
namespace QueryRows
namespace Text

def hexValue? (c : Char) : Option Nat :=
  if c.isDigit then some (c.toNat - '0'.toNat)
  else if 'a' ≤ c && c ≤ 'f' then some (c.toNat - 'a'.toNat + 10)
  else if 'A' ≤ c && c ≤ 'F' then some (c.toNat - 'A'.toNat + 10)
  else none

/-- The digit of a value below 16; `ten` is the digit of ten and sets the case. -/
def hexDigit (ten : Char) (n : Nat) : Char := Char.ofNat (if n < 10 then '0'.toNat + n else ten.toNat + (n - 10))

/-- The last `width` hexadecimal digits of a number. -/
def hexDigits (ten : Char) : Nat → Nat → List Char
  | 0, _ => []
  | width + 1, n => hexDigits ten width (n / 16) ++ [hexDigit ten (n % 16)]

end Text
end QueryRows
