import QueryRows.Yaml.Glyph
import QueryRows.Text.Hex
/-!
# Scalar — the texts that stand in a YAML text

A scalar is plain, quoted or a block.  In plain and quoted scalars a line break between words counts as a space and
further ones are kept (`Gap.folded`); a block keeps its lines, or folds them too.
-/
namespace QueryRows
namespace Yaml

/-- The blanks and line breaks between two words: the blanks before the first break, and the breaks.  A gap that
starts with an escaped break has no blanks and keeps every further break. -/
structure Gap where
  blanks : List Char
  breaks : List Char
  escaped : Bool

namespace Gap

def empty : Gap := ⟨[], [], false⟩

/-- What an escaped line break starts. -/
def afterEscape : Gap := ⟨[], [], true⟩

def isEmpty (g : Gap) : Bool := g.blanks.isEmpty && g.breaks.isEmpty

def crosses (g : Gap) : Bool := g.escaped || !g.breaks.isEmpty

def push (g : Gap) (c : Char) : Gap :=
  if isBreak c then { g with blanks := [], breaks := g.breaks ++ [c] }
  else if g.crosses then g
  else { g with blanks := g.blanks ++ [c] }

/-- **What a gap between two words stands for.** -/
def folded (g : Gap) : List Char :=
  if g.escaped then g.breaks
  else match g.breaks with
    | [] => g.blanks
    | ['\n'] => [' ']
    | '\n' :: more => more
    | breaks => breaks

end Gap

/-! ### Plain scalars -/

/-- A character that ends a plain scalar within brackets. -/
def isFlowIndicator (c : Char) : Bool := c == ',' || c == '[' || c == ']' || c == '\x7b' || c == '\x7d'

/-- A plain scalar that was read: its text, whether the line has changed behind it, and what follows. -/
structure PlainScalar where
  text : List Char
  crossed : Bool
  rest : List Glyph

/-- **Reads a plain scalar on.**  `text` is what it has so far, last character first; `gap` stands behind that.
Outside brackets the lines that continue it are indented by `indent` at least. -/
def readPlain? (flow : Bool) (indent : Nat) (text : List Char) (gap : Gap) : List Glyph → Option PlainScalar
  | [] => some ⟨text.reverse, gap.crosses, []⟩
  | g :: gs =>
    if isBlank g.char || isBreak g.char then
      if g.char = '\t' && gap.crosses && g.column < indent then none
      else readPlain? flow indent text (gap.push g.char) gs
    else
      let stop : Option PlainScalar := some ⟨text.reverse, gap.crosses, g :: gs⟩
      if !gap.isEmpty && ((!flow && g.column < indent) || atDocumentMark (g :: gs) || g.char = '#') then stop
      else if flow && g.char = ':' && (startsWith '?' gs || gs.head?.any fun n => isFlowIndicator n.char) then none
      else if (g.char = ':' && atGap gs) || (flow && isFlowIndicator g.char) then stop
      else readPlain? flow indent (g.char :: (gap.folded.reverse ++ text)) .empty gs

/-! ### Quoted scalars -/

/-- Reads a scalar between single quotes after the opening one; a quote that is written twice is part of it. -/
def readSingle? (text : List Char) (gap : Gap) : List Glyph → Option (List Char × List Glyph)
  | [] => none
  | g :: gs =>
    if atDocumentMark (g :: gs) then none
    else if isBlank g.char || isBreak g.char then readSingle? text (gap.push g.char) gs
    else
      let text := gap.folded.reverse ++ text
      if g.char = '\'' then
        match gs with
        | q :: rest =>
          if q.char = '\'' then readSingle? ('\'' :: text) .empty rest else some (text.reverse, q :: rest)
        | [] => some (text.reverse, [])
      else readSingle? (g.char :: text) .empty gs

/-- The character that an escape of one letter stands for. -/
def escaped? : Char → Option Char
  | '0' => some '\x00'
  | 'a' => some '\x07'
  | 'b' => some '\x08'
  | 't' | '\t' => some '\t'
  | 'n' => some '\n'
  | 'v' => some '\x0b'
  | 'f' => some '\x0c'
  | 'r' => some '\r'
  | 'e' => some '\x1b'
  | ' ' => some ' '
  | '"' => some '"'
  | '/' => some '/'
  | '\\' => some '\\'
  | 'N' => some '\x85'
  | '_' => some '\xa0'
  | 'L' => some lineSeparator
  | 'P' => some paragraphSeparator
  | _ => none

/-- How many hexadecimal digits follow an escape letter. -/
def hexDigitCount? : Char → Option Nat
  | 'x' => some 2
  | 'u' => some 4
  | 'U' => some 8
  | _ => none

/-- The character of a code point, if it is one. -/
def charOfCode? (n : Nat) : Option Char :=
  if n ≤ 0x10FFFF && !(0xD800 ≤ n && n ≤ 0xDFFF) then some (Char.ofNat n) else none

/-- Where the reading of a double-quoted scalar stands. -/
inductive EscapeState where
  | none
  /-- behind a backslash -/
  | letter
  /-- within the digits of a code point: the number so far and how many digits are to come -/
  | code (n digits : Nat)

/-- Reads a scalar between double quotes after the opening one. -/
def readDouble? (text : List Char) (gap : Gap) : EscapeState → List Glyph → Option (List Char × List Glyph)
  | _, [] => none
  | .letter, g :: gs =>
    if isBreak g.char then readDouble? text .afterEscape .none gs
    else match hexDigitCount? g.char, escaped? g.char with
      | some digits, _ => readDouble? text .empty (.code 0 digits) gs
      | none, some c => readDouble? (c :: text) .empty .none gs
      | none, none => Option.none
  | .code n digits, g :: gs =>
    match Text.hexValue? g.char with
    | Option.none => Option.none
    | some v =>
      if digits ≤ 1 then
        match charOfCode? (n * 16 + v) with
        | some c => readDouble? (c :: text) .empty .none gs
        | Option.none => Option.none
      else readDouble? text .empty (.code (n * 16 + v) (digits - 1)) gs
  | .none, g :: gs =>
    if atDocumentMark (g :: gs) then Option.none
    else if isBlank g.char || isBreak g.char then readDouble? text (gap.push g.char) .none gs
    else
      let text := gap.folded.reverse ++ text
      if g.char = '"' then some (text.reverse, gs)
      else if g.char = '\\' then readDouble? text .empty .letter gs
      else readDouble? (g.char :: text) .empty .none gs

/-! ### Block scalars -/

/-- What happens to the line breaks at the end of a block. -/
inductive Chomping where
  | strip
  | clip
  | keep
deriving DecidableEq

/-- The header of a block: the line breaks to keep, and its indentation if that is given. -/
structure BlockHeader where
  chomping : Chomping
  increment : Option Nat

def chompingOf? : Char → Option Chomping
  | '+' => some .keep
  | '-' => some .strip
  | _ => none

/-- The digit of a header, which is not zero. -/
def incrementOf? (c : Char) : Option Nat := if c.isDigit && c != '0' then some (c.toNat - '0'.toNat) else none

/-- Reads a header: a sign and a digit in any order, both optional. -/
def readHeader : List Glyph → BlockHeader × List Glyph
  | [] => (⟨.clip, none⟩, [])
  | g :: gs =>
    match chompingOf? g.char, incrementOf? g.char with
    | some chomping, _ =>
      match gs with
      | d :: rest =>
        match incrementOf? d.char with
        | some n => (⟨chomping, some n⟩, rest)
        | none => (⟨chomping, none⟩, d :: rest)
      | [] => (⟨chomping, none⟩, [])
    | none, some n =>
      match gs with
      | d :: rest =>
        match chompingOf? d.char with
        | some chomping => (⟨chomping, some n⟩, rest)
        | none => (⟨.clip, some n⟩, d :: rest)
      | [] => (⟨.clip, some n⟩, [])
    | none, none => (⟨.clip, none⟩, g :: gs)

/-- The rest of a header's line holds blanks and a comment only; what follows the line. -/
def skipHeaderLine? (gs : List Glyph) : Option (List Glyph) :=
  let gs := gs.dropWhile fun g => isBlank g.char
  let gs := if startsWith '#' gs then gs.dropWhile fun g => !isBreak g.char else gs
  match gs with
  | [] => some []
  | g :: rest => if isBreak g.char then some rest else none

/-- The line breaks of empty lines, the greatest indentation seen, and what follows. -/
structure EmptyLines where
  breaks : List Char
  widest : Nat
  rest : List Glyph

/-- **Passes over empty lines and the indentation behind them**, which goes up to `indent` where that is known.  A
tab cannot indent. -/
def skipEmptyLines? (indent : Option Nat) (breaks : List Char) (widest : Nat) : List Glyph → Option EmptyLines
  | [] => some ⟨breaks, widest, []⟩
  | g :: gs =>
    let widest := max widest g.column
    if g.char = ' ' && indent.all (g.column < ·) then skipEmptyLines? indent breaks widest gs
    else if g.char = '\t' && indent.all (g.column < ·) then none
    else if isBreak g.char then skipEmptyLines? indent (breaks ++ [g.char]) widest gs
    else some ⟨breaks, widest, g :: gs⟩

/-- A block while it is read: its text, the break of its last line, the breaks of empty lines behind that, and
whether its last line started with a blank. -/
structure BlockText where
  text : List Char
  lastBreak : List Char
  emptyBreaks : List Char
  ledByBlank : Bool

/-- One more line.  Where lines are folded, a break between two lines that start with no blank is a space. -/
def BlockText.addLine (b : BlockText) (literal : Bool) (line : List Char) (ending : List Char) : BlockText :=
  let blank := line.head?.any isBlank
  let joint :=
    if !literal && b.lastBreak == ['\n'] && !b.ledByBlank && !blank then
      if b.emptyBreaks.isEmpty then [' '] else b.emptyBreaks
    else b.lastBreak ++ b.emptyBreaks
  ⟨b.text ++ joint ++ line, ending, [], blank⟩

def BlockText.finish (b : BlockText) : Chomping → List Char
  | .strip => b.text
  | .clip => b.text ++ b.lastBreak
  | .keep => b.text ++ b.lastBreak ++ b.emptyBreaks

/-- Reads the lines of a block that stand at its indentation; `fuel` bounds their number. -/
def readBlockLines? (literal : Bool) (indent : Nat) :
    Nat → BlockText → List Glyph → Option (BlockText × List Glyph)
  | 0, b, gs => some (b, gs)
  | _ + 1, b, [] => some (b, [])
  | fuel + 1, b, g :: gs =>
    if g.column ≠ indent then some (b, g :: gs)
    else
      let line := (g :: gs).takeWhile fun g => !isBreak g.char
      let after := (g :: gs).dropWhile fun g => !isBreak g.char
      let b := b.addLine literal (line.map (·.char)) ((after.take 1).map (·.char))
      match skipEmptyLines? (some indent) [] 0 (after.drop 1) with
      | none => none
      | some e => readBlockLines? literal indent fuel { b with emptyBreaks := e.breaks } e.rest

/-- **Reads a block scalar after its indicator**; `outer` is the column of the collection it stands in. -/
def readBlock? (literal : Bool) (outer : Option Nat) (gs : List Glyph) : Option (List Char × List Glyph) := do
  let (header, gs) := readHeader gs
  let gs ← skipHeaderLine? gs
  let known := header.increment.map fun n => (outer.getD 0) + n
  let e ← skipEmptyLines? known [] 0 gs
  let least := (outer.map (· + 1)).getD 0
  let indent := known.getD (max 1 (max least e.widest))
  let (b, rest) ← readBlockLines? literal indent gs.length ⟨[], [], e.breaks, false⟩ e.rest
  return (b.finish header.chomping, rest)

end Yaml
end QueryRows
