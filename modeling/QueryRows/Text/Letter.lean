import QueryRows.Text.LetterTables
/-!
# Letter — the classes of letters and numbers

ASCII is decided directly, all other characters by the tables of the Unicode properties.
-/
namespace QueryRows
namespace Text

def isAlphabetic (c : Char) : Bool :=
  if c.toNat < 0x80 then c.isAlpha else covers alphabeticSpans c.toNat

def isAlphanumeric (c : Char) : Bool :=
  if c.toNat < 0x80 then c.isAlphanum
  else covers alphabeticSpans c.toNat || covers numericSpans c.toNat

def isUppercase (c : Char) : Bool :=
  if c.toNat < 0x80 then c.isUpper else covers uppercaseSpans c.toNat

def isLowercase (c : Char) : Bool :=
  if c.toNat < 0x80 then c.isLower else covers lowercaseSpans c.toNat

end Text
end QueryRows
