import QueryRows.Bag
/-!
# TextTable — rows as aligned columns of text

Every column is as wide as its widest cell, and at least three characters; two spaces stand between columns.
Numbers are aligned to the right, everything else to the left, and no line but the separator ends in blanks.
-/
namespace QueryRows

/-- The text of a cell, and whether it is a number. -/
structure Cell where
  text : List Char
  numeric : Bool

/-- Line breaks and tabs become spaces. -/
def flattenCell (cs : List Char) : List Char := cs.map fun c => if c == '\n' || c == '\r' || c == '\t' then ' ' else c

/-- The cell of a value; no value leaves it empty. -/
def Cell.ofValue : Option Value → Cell
  | none => ⟨[], false⟩
  | some v => ⟨flattenCell v.display.toList, v.isNumeric⟩

mutual

/-- **The number of characters that show**: an escape character and what follows it up to the next `m` do not. -/
def shownWidth : List Char → Nat
  | [] => 0
  | c :: cs => if c = '\x1b' then hiddenWidth cs else shownWidth cs + 1

/-- The number of characters that show after an escape character. -/
def hiddenWidth : List Char → Nat
  | [] => 0
  | c :: cs => if c = 'm' then shownWidth cs else hiddenWidth cs

end

/-- A table of text. -/
structure TextTable where
  headers : List String
  rows : List (List Cell)

namespace TextTable

def empty (headers : List String) : TextTable := ⟨headers, []⟩

/-- Adds a row: one value for each header, none where values are missing. -/
def push (t : TextTable) (values : List Value) : TextTable :=
  { t with rows := t.rows ++ [(List.range t.headers.length).map fun i => Cell.ofValue values[i]?] }

/-- **The table of bags**, with a column for every field name. -/
def ofBags (l : BagList) : TextTable :=
  ⟨l.columns, l.rows.map fun row => l.columns.map fun column => Cell.ofValue (row.get? column)⟩

def size (t : TextTable) : Nat := t.rows.length

def columnWidth (t : TextTable) (i : Nat) (header : String) : Nat :=
  t.rows.foldl (fun w row => max w ((row[i]?.map fun c => shownWidth c.text).getD 0))
    (max 3 (shownWidth header.toList))

def widths (t : TextTable) : List Nat := t.headers.zipIdx.map fun h => t.columnWidth h.2 h.1

/-- The characters of a cell, filled up to a width. -/
def padCell (cell : Cell) (width : Nat) : List Char :=
  let padding := List.replicate (width - shownWidth cell.text) ' '
  if cell.numeric then padding ++ cell.text else cell.text ++ padding

def gap : List Char := [' ', ' ']

/-- **A line of cells.** -/
def line (cells : List Cell) (widths : List Nat) : List Char :=
  Text.trimEnd (gap.intercalate ((cells.zip widths).map fun p => padCell p.1 p.2)) ++ ['\n']

/-- **The text of a table**: the headers, a line of dashes and the rows. -/
def render (t : TextTable) : String :=
  let widths := t.widths
  let header := line (t.headers.map fun h => ⟨flattenCell h.toList, false⟩) widths
  let separator := gap.intercalate (widths.map fun w => List.replicate w '-') ++ ['\n']
  String.ofList (header ++ separator ++ t.rows.flatMap fun row => line row widths)

end TextTable

end QueryRows
