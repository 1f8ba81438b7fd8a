import QueryRows.Text.Blank
/-!
# Shown — a text between quotation marks, as messages show it

Quotation marks and backslashes are escaped, and so is every character that could not be told from its neighbours:
controls, and blanks other than the space.
-/
namespace QueryRows
namespace Text

def byNumber (c : Char) : List Char := ['\\', 'u', '\x7b'] ++ Nat.toDigits 16 c.toNat ++ ['\x7d']

/-- A control character. -/
def isControl (c : Char) : Bool := c.toNat < 0x20 || (0x7F ≤ c.toNat && c.toNat < 0xA0)

def showChar (c : Char) : List Char :=
  match c with
  | '"' => ['\\', '"']
  | '\\' => ['\\', '\\']
  | '\n' => ['\\', 'n']
  | '\r' => ['\\', 'r']
  | '\t' => ['\\', 't']
  | '\x00' => ['\\', '0']
  | ' ' => [' ']
  | c => if isControl c || isBlank c then byNumber c else [c]

/-- **A text as it is shown.** -/
def shown (s : String) : String := String.ofList ('"' :: s.toList.flatMap showChar ++ ['"'])

end Text
end QueryRows
