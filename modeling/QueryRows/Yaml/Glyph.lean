/-!
# Glyph — the characters of a YAML text and where they stand

In YAML the column of a character can decide what it means.  A text is therefore read as a list of glyphs, which
carry their line and column; line breaks come down to the line feed, but for the two separators that stay what
they are.
-/
namespace QueryRows
namespace Yaml

/-- A character with its line and column, both counted from zero. -/
structure Glyph where
  char : Char
  line : Nat
  column : Nat

def lineSeparator : Char := '\u2028'

def paragraphSeparator : Char := '\u2029'

def isBreak (c : Char) : Bool := c == '\n' || c == lineSeparator || c == paragraphSeparator

def isBlank (c : Char) : Bool := c == ' ' || c == '\t'

/-- **The characters that a text may have**: no control characters but tab and line breaks. -/
def isAllowed (c : Char) : Bool :=
  let n := c.toNat
  n == 0x09 || n == 0x0A || n == 0x0D || (0x20 ≤ n && n ≤ 0x7E) || n == 0x85 || (0xA0 ≤ n && n ≤ 0xFFFD)
    || 0x10000 ≤ n

/-- Line breaks written as line feeds: carriage returns, with or without a line feed, and next lines. -/
def plainBreaks : List Char → List Char
  | [] => []
  | '\r' :: '\n' :: cs => '\n' :: plainBreaks cs
  | c :: cs => (if c = '\r' || c = '\x85' then '\n' else c) :: plainBreaks cs

/-- The glyphs of a text that goes on at a line and column. -/
def place (line column : Nat) : List Char → List Glyph
  | [] => []
  | c :: cs => ⟨c, line, column⟩ :: if isBreak c then place (line + 1) 0 cs else place line (column + 1) cs

/-- **The glyphs of a text**, without the mark that may stand at its start. -/
def glyphs (text : String) : List Glyph :=
  match text.toList with
  | '\uFEFF' :: cs => place 0 0 (plainBreaks cs)
  | cs => place 0 0 (plainBreaks cs)

/-- The text ends here, or a blank or line break stands here. -/
def atGap : List Glyph → Bool
  | [] => true
  | g :: _ => isBlank g.char || isBreak g.char

/-- **A mark of a document's start or end**: three times the same character at the start of a line, and a gap. -/
def isDocumentMark (c : Char) : List Glyph → Bool
  | a :: b :: d :: rest => a.column == 0 && a.char == c && b.char == c && d.char == c && atGap rest
  | _ => false

def atDocumentMark (gs : List Glyph) : Bool := isDocumentMark '-' gs || isDocumentMark '.' gs

def startsWith (c : Char) : List Glyph → Bool
  | g :: _ => g.char == c
  | [] => false

end Yaml
end QueryRows
