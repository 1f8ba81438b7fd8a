import QueryRows.Yaml.Scalar
/-!
# Token — the marks and texts of a YAML text

A text is cut into tokens from left to right.  Indentation opens and closes block collections, and a scalar or
bracket may turn out to be a key only when the colon behind it is met: a slot is left before it, which is filled
with the marks of a key when that happens and is empty otherwise (`Item.expand`).

Only a part of YAML has tokens here: anchors (`&`), aliases (`*`), tags (`!`) and directives (`%`) have none, and a text
with one of them is refused as a whole, although it may well be YAML.
-/
namespace QueryRows
namespace Yaml

/-- A token. -/
inductive Token where
  | documentStart
  | documentEnd
  | blockSequence
  | blockMapping
  | blockEnd
  | flowSequence
  | flowSequenceEnd
  | flowMapping
  | flowMappingEnd
  /-- the comma between elements in brackets -/
  | comma
  /-- the dash of an element of a block sequence -/
  | dash
  | key
  | value
  | scalar (plain : Bool) (text : String)
deriving DecidableEq

/-- A token, or a place before something that may turn out to be a key. -/
inductive Item where
  | token (t : Token)
  | slot (number : Nat)

/-- A slot whose content has turned out to be a key, which may open a block mapping. -/
structure FilledSlot where
  number : Nat
  opens : Bool

/-- **The tokens of items**, with the marks of keys in the slots that are filled. -/
def Item.expand (filled : List FilledSlot) : Item → List Token
  | .token t => [t]
  | .slot n =>
    match filled.find? fun f => f.number == n with
    | some f => if f.opens then [.blockMapping, .key] else [.key]
    | none => []

/-- Something that may turn out to be a key: its slot and place, and whether nothing else can stand there. -/
structure KeyCandidate where
  slot : Nat
  line : Nat
  column : Nat
  required : Bool

/-- How far the cutting has come. -/
structure Scan where
  /-- the columns of the open block collections, the innermost first -/
  indents : List Nat
  /-- the candidate outside brackets and within each open bracket, the innermost first -/
  candidates : List (Option KeyCandidate)
  /-- a key may start here -/
  keyAllowed : Bool
  /-- the items so far, the last one first -/
  items : List Item
  slots : Nat
  filled : List FilledSlot

namespace Scan

def start : Scan := ⟨[], [none], true, [], 0, []⟩

def inFlow (s : Scan) : Bool := 1 < s.candidates.length

def put (s : Scan) (t : Token) : Scan := { s with items := .token t :: s.items }

/-- The column stands further to the right than the innermost block collection. -/
def deeper (s : Scan) (column : Nat) : Bool := s.indents.head?.all (· < column)

/-- Opens a block collection at a column, unless one is open there. -/
def openBlock (s : Scan) (column : Nat) (t : Token) : Scan :=
  if s.deeper column then { s.put t with indents := column :: s.indents } else s

/-- Closes the block collections for which `p` holds of the column. -/
def closeWhile (p : Nat → Bool) : List Nat → List Item → List Nat × List Item
  | [], items => ([], items)
  | column :: outer, items =>
    if p column then closeWhile p outer (.token .blockEnd :: items) else (column :: outer, items)

/-- Closes the block collections that stand further to the right than a column; brackets keep them open. -/
def closeBlocks (s : Scan) (column : Nat) : Scan :=
  if s.inFlow then s
  else
    let (indents, items) := closeWhile (column < ·) s.indents s.items
    { s with indents, items }

def closeAll (s : Scan) : Scan :=
  if s.inFlow then s
  else
    let (indents, items) := closeWhile (fun _ => true) s.indents s.items
    { s with indents, items }

/-- Gives up the innermost candidate; one that is required cannot be given up. -/
def dropCandidate? (s : Scan) : Option Scan :=
  match s.candidates with
  | some k :: outer => if k.required then none else some { s with candidates := none :: outer }
  | _ => some s

/-- **Makes a candidate of what starts at a glyph**, if a key may start there. -/
def offerKey? (s : Scan) (g : Glyph) : Option Scan :=
  if s.keyAllowed then do
    let s ← s.dropCandidate?
    let required := !s.inFlow && s.indents.head? == some g.column
    return { s with
      items := .slot s.slots :: s.items
      slots := s.slots + 1
      candidates := some ⟨s.slots, g.line, g.column, required⟩ :: s.candidates.tail }
  else some s

/-- How far behind its start a key can end. -/
def maxKeyLength : Nat := 1024

/-- A candidate on an earlier line, or too far back, is no key any more. -/
def isStale (line column : Nat) (k : KeyCandidate) : Bool := k.line < line || k.column + maxKeyLength < column

/-- **Gives up the candidates that are stale**; one that is required cannot be given up. -/
def dropStale? (line column : Nat) : List (Option KeyCandidate) → Option (List (Option KeyCandidate))
  | [] => some []
  | none :: outer => (dropStale? line column outer).map (none :: ·)
  | some k :: outer =>
    if isStale line column k then
      if k.required then none else (dropStale? line column outer).map (none :: ·)
    else (dropStale? line column outer).map (some k :: ·)

/-- A colon: it makes a key of the candidate, or else stands behind a key that was marked or is empty. -/
def putValue? (s : Scan) (g : Glyph) : Option Scan :=
  match s.candidates with
  | some k :: outer =>
    let opens := !s.inFlow && s.deeper k.column
    some { s with
      indents := if opens then k.column :: s.indents else s.indents
      candidates := none :: outer
      keyAllowed := false
      items := .token .value :: s.items
      filled := ⟨k.slot, opens⟩ :: s.filled }
  | _ =>
    if s.inFlow then some { s.put .value with keyAllowed := false }
    else if s.keyAllowed then some ((s.openBlock g.column .blockMapping).put .value)
    else none

def putDash? (s : Scan) (g : Glyph) : Option Scan :=
  if s.inFlow then s.dropCandidate?.map fun s => { s.put .dash with keyAllowed := true }
  else if s.keyAllowed then
    (s.openBlock g.column .blockSequence).dropCandidate?.map fun s => { s.put .dash with keyAllowed := true }
  else none

/-- The mark of a key that is more than a text on one line. -/
def putKey? (s : Scan) (g : Glyph) : Option Scan :=
  if s.inFlow then s.dropCandidate?.map fun s => { s.put .key with keyAllowed := false }
  else if s.keyAllowed then
    (s.openBlock g.column .blockMapping).dropCandidate?.map fun s => { s.put .key with keyAllowed := true }
  else none

def openFlow? (s : Scan) (g : Glyph) (t : Token) : Option Scan :=
  (s.offerKey? g).map fun s => { s.put t with candidates := none :: s.candidates, keyAllowed := true }

def closeFlow? (s : Scan) (t : Token) : Option Scan :=
  s.dropCandidate?.map fun s =>
    { s.put t with
      candidates := if s.inFlow then s.candidates.tail else s.candidates
      keyAllowed := false }

def putComma? (s : Scan) : Option Scan :=
  s.dropCandidate?.map fun s => { s.put .comma with keyAllowed := true }

def putDocumentMark? (s : Scan) (t : Token) : Option Scan :=
  s.closeAll.dropCandidate?.map fun s => { s.put t with keyAllowed := false }

def putScalar? (s : Scan) (g : Glyph) (plain : Bool) (read : Option (List Char × List Glyph)) :
    Option (Scan × List Glyph) := do
  let s ← s.offerKey? g
  let (text, rest) ← read
  return ({ s.put (.scalar plain (String.ofList text)) with keyAllowed := false }, rest)

/-- A plain scalar; where it goes past the end of a line a key may follow it. -/
def putPlain? (s : Scan) (g : Glyph) (gs : List Glyph) : Option (Scan × List Glyph) := do
  let s ← s.offerKey? g
  let indent := (s.indents.head?.map (· + 1)).getD 0
  let p ← readPlain? s.inFlow indent [] .empty gs
  return ({ s.put (.scalar true (String.ofList p.text)) with keyAllowed := p.crossed }, p.rest)

def putBlock? (s : Scan) (literal : Bool) (gs : List Glyph) : Option (Scan × List Glyph) := do
  let s ← s.dropCandidate?
  let (text, rest) ← readBlock? literal s.indents.head? gs
  return ({ s.put (.scalar false (String.ofList text)) with keyAllowed := true }, rest)

end Scan

/-- **Passes over blanks, comments and line breaks.**  A tab cannot stand where a key may start outside brackets;
behind a line break a key may start. -/
def skipToToken (flow keyAllowed inComment : Bool) : List Glyph → Bool × List Glyph
  | [] => (keyAllowed, [])
  | g :: gs =>
    if isBreak g.char then skipToToken flow (keyAllowed || !flow) false gs
    else if inComment then skipToToken flow keyAllowed true gs
    else if g.char = ' ' || (g.char = '\t' && (flow || !keyAllowed)) then skipToToken flow keyAllowed false gs
    else if g.char = '#' then skipToToken flow keyAllowed true gs
    else (keyAllowed, g :: gs)

def isIndicator (c : Char) : Bool :=
  ['-', '?', ':', ',', '[', ']', '\x7b', '\x7d', '#', '&', '*', '!', '|', '>', '\'', '"', '%', '@', '\x60'].contains c

def startsPlain (flow : Bool) (g : Glyph) (gs : List Glyph) : Bool :=
  !(isIndicator g.char || isBlank g.char)
    || (g.char == '-' && !(gs.head?.any fun n => isBlank n.char))
    || (!flow && (g.char == '?' || g.char == ':') && !atGap gs)

/-- **Cuts off one token** at a glyph that is neither blank nor break. -/
def Scan.step? (s : Scan) (g : Glyph) (gs : List Glyph) : Option (Scan × List Glyph) :=
  let flow := s.inFlow
  if isDocumentMark '-' (g :: gs) then (s.putDocumentMark? .documentStart).map (·, gs.drop 2)
  else if isDocumentMark '.' (g :: gs) then (s.putDocumentMark? .documentEnd).map (·, gs.drop 2)
  else if g.char = '%' && g.column = 0 then none
  else if g.char = '[' then (s.openFlow? g .flowSequence).map (·, gs)
  else if g.char = '\x7b' then (s.openFlow? g .flowMapping).map (·, gs)
  else if g.char = ']' then (s.closeFlow? .flowSequenceEnd).map (·, gs)
  else if g.char = '\x7d' then (s.closeFlow? .flowMappingEnd).map (·, gs)
  else if g.char = ',' then s.putComma?.map (·, gs)
  else if g.char = '-' && atGap gs then (s.putDash? g).map (·, gs)
  else if g.char = '?' && (flow || atGap gs) then (s.putKey? g).map (·, gs)
  else if g.char = ':' && (flow || atGap gs) then (s.putValue? g).map (·, gs)
  else if g.char = '|' && !flow then s.putBlock? true gs
  else if g.char = '>' && !flow then s.putBlock? false gs
  else if g.char = '\'' then s.putScalar? g false (readSingle? [] .empty gs)
  else if g.char = '"' then s.putScalar? g false (readDouble? [] .empty .none gs)
  else if startsPlain flow g gs then s.putPlain? g (g :: gs)
  else none

/-- Cuts off the tokens of a text one after the other; every one takes a glyph at least, so that `fuel` above the
number of glyphs is enough. -/
def Scan.run? : Nat → Scan → List Glyph → Option Scan
  | 0, _, _ => none
  | fuel + 1, s, gs =>
    match skipToToken s.inFlow s.keyAllowed false gs with
    | (_, []) => s.closeAll.dropCandidate?
    | (keyAllowed, g :: rest) =>
      match Scan.dropStale? g.line g.column s.candidates with
      | none => none
      | some candidates =>
        match ({ s with keyAllowed, candidates }.closeBlocks g.column).step? g rest with
        | none => none
        | some (s, rest) => s.run? fuel rest

/-- **The tokens of a text**, if it has only characters that are allowed and can be cut into tokens. -/
def tokens? (text : String) : Option (List Token) :=
  if text.toList.all isAllowed then
    let gs := glyphs text
    (Scan.run? (gs.length + 1) .start gs).map fun s => s.items.reverse.flatMap (Item.expand s.filled)
  else none

end Yaml
end QueryRows
