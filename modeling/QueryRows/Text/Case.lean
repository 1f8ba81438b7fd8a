import QueryRows.Text.CaseTables
/-!
# Case — upper and lower case

Three comparisons of different reach: `sameIgnoringAsciiCase` folds the 26 Latin letters only, `lowerChar` and
`upperChar` map one character by the Unicode tables, and `lower` maps a whole text, where a sigma at the end of a
word takes its final form.
-/
namespace QueryRows
namespace Text

/-- The ASCII letter in lower case, any other character as it is. -/
def asciiLower (c : Char) : Char := c.toLower

/-- **Two texts are the same up to the case of their ASCII letters.** -/
def sameIgnoringAsciiCase (a b : String) : Bool := a.toList.map asciiLower == b.toList.map asciiLower

theorem sameIgnoringAsciiCase_iff {a b : String} :
    sameIgnoringAsciiCase a b = true ↔ a.toList.map asciiLower = b.toList.map asciiLower := beq_iff_eq

theorem sameIgnoringAsciiCase_comm (a b : String) : sameIgnoringAsciiCase a b = sameIgnoringAsciiCase b a :=
  Bool.eq_iff_iff.2 (sameIgnoringAsciiCase_iff.trans (eq_comm.trans sameIgnoringAsciiCase_iff.symm))

theorem sameIgnoringAsciiCase_trans {a b c : String} (hab : sameIgnoringAsciiCase a b = true)
    (hbc : sameIgnoringAsciiCase b c = true) : sameIgnoringAsciiCase a c = true :=
  sameIgnoringAsciiCase_iff.2 ((sameIgnoringAsciiCase_iff.1 hab).trans (sameIgnoringAsciiCase_iff.1 hbc))

/-- The characters a table gives for another case of `c`, or `c` itself. -/
def mapCase (sequences : List (Nat × List Nat)) (shifts : List Shift) (c : Char) : List Char :=
  match sequences.lookup c.toNat with
  | some ns => ns.map Char.ofNat
  | none =>
    match shifted? shifts c.toNat with
    | some n => [Char.ofNat n]
    | none => [c]

/-- One character in lower case, without regard to its neighbours. -/
def lowerChar (c : Char) : List Char :=
  if c.toNat < 0x80 then [c.toLower] else mapCase lowerSequences lowerShifts c

def upperChar (c : Char) : List Char :=
  if c.toNat < 0x80 then [c.toUpper] else mapCase upperSequences upperShifts c

/-- A character that is passed over when the neighbours of a sigma are looked for. -/
def isCaseIgnorable (c : Char) : Bool :=
  if c.toNat < 0x80 then [0x27, 0x2E, 0x3A, 0x5E, 0x60].contains c.toNat else covers caseIgnorableSpans c.toNat

def isCased (c : Char) : Bool :=
  if c.toNat < 0x80 then c.isAlpha else covers casedSpans c.toNat

/-- The first character that is not passed over has a case. -/
def startsCased (cs : List Char) : Bool :=
  match cs.dropWhile isCaseIgnorable with
  | c :: _ => isCased c
  | [] => false

/-- Lower case of a text whose preceding characters, nearest first, are `before`. -/
def lowerAfter (before : List Char) : List Char → List Char
  | [] => []
  | c :: rest =>
    let low :=
      if c = 'Σ' then [if startsCased before && !startsCased rest then 'ς' else 'σ'] else lowerChar c
    low ++ lowerAfter (c :: before) rest

/-- **A text in lower case**; a capital sigma that ends a word becomes a final sigma. -/
def lower (cs : List Char) : List Char := lowerAfter [] cs

/-- **A text in upper case**, character by character. -/
def upper (cs : List Char) : List Char := cs.flatMap upperChar

end Text
end QueryRows
