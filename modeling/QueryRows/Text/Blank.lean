/-!
# Blank — white space, and text without it at its ends

White space is the Unicode property of that name, 25 code points.  `trim` drops it at both ends of a text and
nowhere else.
-/
namespace QueryRows
namespace Text

/-- **A blank is one of the 25 white space characters**: the ASCII ones from tab to carriage return and the space,
next line, and the spaces and separators beyond ASCII. -/
def isBlank (c : Char) : Bool :=
  let n := c.toNat
  (9 ≤ n && n ≤ 13) || n == 0x20 || n == 0x85 || n == 0xA0 || n == 0x1680 || (0x2000 ≤ n && n ≤ 0x200A)
    || n == 0x2028 || n == 0x2029 || n == 0x202F || n == 0x205F || n == 0x3000

def trimStart (cs : List Char) : List Char := cs.dropWhile isBlank

/-- The text without its trailing characters of a kind. -/
def dropEndWhile (p : Char → Bool) (cs : List Char) : List Char := (cs.reverse.dropWhile p).reverse

def trimEnd (cs : List Char) : List Char := dropEndWhile isBlank cs

/-- **The text without the blanks around it.** -/
def trim (cs : List Char) : List Char := trimEnd (trimStart cs)

/-- `trim` of a string. -/
def trimmed (s : String) : String := String.ofList (trim s.toList)

theorem trimStart_eq_self_of_head {c : Char} {cs : List Char} (h : isBlank c = false) :
    trimStart (c :: cs) = c :: cs := by
  simp [trimStart, h]

end Text
end QueryRows
