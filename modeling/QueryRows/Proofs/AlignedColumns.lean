import Mathlib.Order.Bounds.Defs
import Mathlib.Data.List.Forall2
import QueryRows.Proofs.Trimming
import QueryRows.Text.Split
import QueryRows.TextTable
/-!
# AlignedColumns — columns start at the same place on every line

A row of a table has one cell for every header, and a column is as wide as its widest cell, so every cell can be filled
up to exactly the width of its column.  A line is these cells with gaps between them, less the blanks at its end; what
stands before a column shows the same number of characters on every line that gets that far (`Built.aligned`).  Escape
sequences show nothing, wherever they are, as long as they come to an end.
-/
namespace QueryRows

/-- Whether what follows a character is hidden: an escape character hides it, and the next `m` ends that. -/
def hides (hidden : Bool) (c : Char) : Bool := if hidden then c != 'm' else c == '\x1b'

/-- **A text ends inside an escape sequence** that has no end. -/
def endsHidden (cs : List Char) : Bool := cs.foldl hides false

/-- The number of characters that show, where the first ones may be hidden. -/
def widthFrom (hidden : Bool) (cs : List Char) : Nat := if hidden then hiddenWidth cs else shownWidth cs

/-- **The characters of a cell filled up to a width** with spaces: those of a number at the end, any others in front. -/
structure Cell.FilledTo (cell : Cell) (width : Nat) (part : List Char) : Prop where
  width : shownWidth part = width
  side : ∃ n, part = if cell.numeric then List.replicate n ' ' ++ cell.text else cell.text ++ List.replicate n ' '

namespace TextTable

/-- **A table that starts without rows or from bags**, and has had rows added. -/
inductive Built : TextTable → Prop
  | empty (headers : List String) : Built (.empty headers)
  | ofBags (l : BagList) : Built (.ofBags l)
  | push {t : TextTable} (values : List Value) : t.Built → Built (t.push values)

/-- What stands before a column: the parts of the columns before it, each with a gap behind it. -/
def beforeColumn (parts : List (List Char)) (i : Nat) : List Char := (parts.take i).flatMap (· ++ gap)

/-- **Where a column starts**: behind the columns before it and their gaps. -/
def columnStart (widths : List Nat) (i : Nat) : Nat := (widths.take i).foldr (fun w start => w + gap.length + start) 0

/-- **A line of cells that are filled up to widths**: the parts with gaps between them, less the blanks at the end.  The
line ends before a column or goes on with it, and then it does so where the column starts. -/
structure LineOf (widths : List Nat) (cells : List Cell) (parts : List (List Char)) (line : List Char) : Prop where
  length : cells.length = widths.length
  filled : List.Forall₂ (fun c part => c.1.FilledTo c.2 part) (cells.zip widths) parts
  trimmed : ∃ blanks, (∀ c ∈ blanks, Text.isBlank c = true) ∧ gap.intercalate parts = line ++ blanks
  ends : ∀ c ∈ line.getLast?, Text.isBlank c = false
  starts : ∀ i < widths.length, shownWidth (beforeColumn parts i) = columnStart widths i ∧
    (line <+: beforeColumn parts i ∨
      ∃ rest, line = beforeColumn parts i ++ rest ∧ rest <+: gap.intercalate (parts.drop i))

/-- The widths that a column has to have room for: three characters, the header and the cells. -/
def widthsIn (t : TextTable) (i : Nat) (header : String) : Set Nat :=
  {w | w = 3 ∨ w = shownWidth header.toList ∨ ∃ row ∈ t.rows, ∃ cell, row[i]? = some cell ∧ w = shownWidth cell.text}

def headerCells (t : TextTable) : List Cell := t.headers.map fun h => ⟨flattenCell h.toList, false⟩

/-- The line of dashes as cells. -/
def dashes (t : TextTable) : List Cell := t.widths.map fun w => ⟨List.replicate w '-', false⟩

/-- **A table is written in columns**: every cell has a column, a column has the greatest of its widths, and the lines
are those of the headers, the dashes and the rows. -/
structure Aligned (t : TextTable) : Prop where
  inRange : ∀ row ∈ t.rows, row.length = t.widths.length
  columns : t.widths.length = t.headers.length
  widest : ∀ i header, t.headers[i]? = some header →
    ∃ width, t.widths[i]? = some width ∧ IsGreatest (t.widthsIn i header) width
  lines : ∃ lines, t.render = String.ofList (lines.flatMap (· ++ ['\n'])) ∧ lines.length = t.size + 2 ∧
    (∀ line ∈ lines, '\n' ∉ line) ∧
    List.Forall₂ (fun cells line => ∃ parts, LineOf t.widths cells parts line)
      (t.headerCells :: t.dashes :: t.rows) lines

end TextTable

/-! ### What shows -/

theorem widthFrom_append (ds : List Char) : ∀ (cs : List Char) (hidden : Bool),
    widthFrom hidden (cs ++ ds) = widthFrom hidden cs + widthFrom (cs.foldl hides hidden) ds
  | [], false => (Nat.zero_add _).symm
  | [], true => (Nat.zero_add _).symm
  | c :: cs, false => by
    have ih := widthFrom_append ds cs (hides false c)
    by_cases h : c = '\x1b'
    · subst h
      exact ih
    · have hshows : hides false c = false := by simp [hides, h]
      rw [hshows] at ih
      simp only [widthFrom, Bool.false_eq_true, if_false] at ih ⊢
      simp only [List.cons_append, shownWidth, if_neg h, List.foldl_cons, hshows, ih]
      omega
  | c :: cs, true => by
    have ih := widthFrom_append ds cs (hides true c)
    by_cases h : c = 'm'
    · subst h
      exact ih
    · have hhidden : hides true c = true := by simp [hides, h]
      rw [hhidden] at ih
      simp only [widthFrom, if_true] at ih ⊢
      simp only [List.cons_append, hiddenWidth, if_neg h, List.foldl_cons, hhidden, ih]

/-- **Behind a text whose escape sequences have ended, everything shows as it would alone.** -/
theorem shownWidth_append {cs : List Char} (h : endsHidden cs = false) (ds : List Char) :
    shownWidth (cs ++ ds) = shownWidth cs + shownWidth ds := by
  have happend := widthFrom_append ds cs false
  rwa [show cs.foldl hides false = false from h] at happend

theorem endsHidden_append {cs ds : List Char} (hcs : endsHidden cs = false) (hds : endsHidden ds = false) :
    endsHidden (cs ++ ds) = false := by
  rw [endsHidden, List.foldl_append, show cs.foldl hides false = false from hcs]
  exact hds

/-- A character that hides nothing, as often as one likes. -/
theorem shownWidth_replicate {c : Char} (h : c ≠ '\x1b') : ∀ n, shownWidth (List.replicate n c) = n
  | 0 => rfl
  | n + 1 => by rw [List.replicate_succ, shownWidth, if_neg h, shownWidth_replicate h n]

theorem endsHidden_replicate {c : Char} (h : c ≠ '\x1b') : ∀ n, endsHidden (List.replicate n c) = false
  | 0 => rfl
  | n + 1 => by
    have hshows : hides false c = false := by simp [hides, h]
    rw [endsHidden, List.replicate_succ, List.foldl_cons, hshows]
    exact endsHidden_replicate h n

/-- A line break or tab in the place of a space changes neither what is hidden nor where it ends. -/
theorem widthFrom_flattenCell : ∀ (cs : List Char) (hidden : Bool),
    widthFrom hidden (flattenCell cs) = widthFrom hidden cs ∧
      (flattenCell cs).foldl hides hidden = cs.foldl hides hidden
  | [], _ => ⟨rfl, rfl⟩
  | c :: cs, hidden => by
    have hflat : flattenCell (c :: cs) = flattenCell [c] ++ flattenCell cs := rfl
    have hone : widthFrom hidden (flattenCell [c]) = widthFrom hidden [c] ∧
        (flattenCell [c]).foldl hides hidden = hides hidden c := by
      by_cases hbreak : c = '\n' ∨ c = '\r' ∨ c = '\t'
      · rcases hbreak with rfl | rfl | rfl <;> cases hidden <;> exact ⟨rfl, rfl⟩
      · have hkeep : flattenCell [c] = [c] := by
          simp only [not_or] at hbreak
          simp [flattenCell, hbreak]
        rw [hkeep]
        exact ⟨rfl, rfl⟩
    obtain ⟨hwidth, hends⟩ := widthFrom_flattenCell cs (hides hidden c)
    rw [hflat, widthFrom_append, List.foldl_append, hone.1, hone.2, hwidth, hends]
    exact ⟨(widthFrom_append cs [c] hidden).symm, rfl⟩

theorem shownWidth_flattenCell (cs : List Char) : shownWidth (flattenCell cs) = shownWidth cs :=
  (widthFrom_flattenCell cs false).1

theorem endsHidden_flattenCell (cs : List Char) : endsHidden (flattenCell cs) = endsHidden cs :=
  (widthFrom_flattenCell cs false).2

theorem not_mem_flattenCell (cs : List Char) : '\n' ∉ flattenCell cs := by
  intro h
  obtain ⟨c, -, hc⟩ := List.mem_map.1 h
  split at hc
  · cases hc
  · rename_i hkeep
    subst hc
    exact hkeep rfl

/-! ### Lines -/

/-- A cell fits a column: its escape sequences have their ends, it is no wider than the column, and it has no line
break. -/
structure Cell.Fits (cell : Cell) (width : Nat) : Prop where
  ends : endsHidden cell.text = false
  width_le : shownWidth cell.text ≤ width
  flat : '\n' ∉ cell.text

namespace TextTable

theorem padCell_of_fits {cell : Cell} {width : Nat} (h : cell.Fits width) :
    cell.FilledTo width (padCell cell width) ∧ endsHidden (padCell cell width) = false ∧ '\n' ∉ padCell cell width := by
  obtain ⟨text, numeric⟩ := cell
  obtain ⟨hends, hle, hflat⟩ := h
  have hspace : (' ' : Char) ≠ '\x1b' := by decide
  have hspaces := endsHidden_replicate hspace (width - shownWidth text)
  have hwidth := shownWidth_replicate hspace (width - shownWidth text)
  have hbreak : '\n' ∉ List.replicate (width - shownWidth text) ' ' := fun hmem => by
    cases List.eq_of_mem_replicate hmem
  cases numeric with
  | true =>
    refine ⟨⟨?_, _, rfl⟩, endsHidden_append hspaces hends, fun hmem => ?_⟩
    · rw [padCell, if_pos rfl, shownWidth_append hspaces, hwidth]
      exact Nat.sub_add_cancel hle
    · exact (List.mem_append.1 hmem).elim hbreak hflat
  | false =>
    refine ⟨⟨?_, _, rfl⟩, endsHidden_append hends hspaces, fun hmem => ?_⟩
    · rw [padCell, if_neg Bool.false_ne_true, shownWidth_append hends, hwidth]
      exact Nat.add_sub_cancel' hle
    · exact (List.mem_append.1 hmem).elim hflat hbreak

/-- The cells of a line filled up. -/
def filledParts (widths : List Nat) (cells : List Cell) : List (List Char) :=
  (cells.zip widths).map fun p => padCell p.1 p.2

/-- A line without its line break. -/
def lineText (widths : List Nat) (cells : List Cell) : List Char :=
  Text.trimEnd (gap.intercalate (filledParts widths cells))

theorem intercalate_eq_beforeColumn_append : ∀ {parts : List (List Char)} {i : Nat}, i < parts.length →
    gap.intercalate parts = beforeColumn parts i ++ gap.intercalate (parts.drop i)
  | _, 0, _ => rfl
  | [_], i + 1, h => absurd h (by simp)
  | part :: next :: parts, i + 1, h => by
    rw [List.intercalate_cons_cons, intercalate_eq_beforeColumn_append (Nat.lt_of_succ_lt_succ h), beforeColumn,
      beforeColumn, List.take_succ_cons, List.flatMap_cons, List.drop_succ_cons, List.append_assoc (part ++ gap)]

theorem shownWidth_beforeColumn {widths : List Nat} {parts : List (List Char)}
    (h : List.Forall₂ (fun w part => shownWidth part = w ∧ endsHidden part = false) widths parts) (i : Nat) :
    shownWidth (beforeColumn parts i) = columnStart widths i := by
  induction h generalizing i with
  | nil => simp [beforeColumn, columnStart, shownWidth]
  | @cons w part widths parts hpart _ ih =>
    cases i with
    | zero => rfl
    | succ i =>
      have hgap : endsHidden (part ++ gap) = false := endsHidden_append hpart.2 rfl
      have hi : shownWidth ((parts.take i).flatMap (· ++ gap)) = columnStart widths i := ih i
      rw [beforeColumn, List.take_succ_cons, List.flatMap_cons, shownWidth_append hgap, shownWidth_append hpart.2,
        hpart.1, hi, columnStart, columnStart, List.take_succ_cons, List.foldr_cons]
      rfl

/-- **Cells that fit their columns make a line of them.** -/
theorem lineOf_lineText {widths : List Nat} {cells : List Cell} (h : List.Forall₂ Cell.Fits cells widths) :
    LineOf widths cells (filledParts widths cells) (lineText widths cells) := by
  have hparts : List.Forall₂ (fun w part => shownWidth part = w ∧ endsHidden part = false) widths
      (filledParts widths cells) := by
    induction h with
    | nil => exact .nil
    | cons hfit _ ih => exact .cons ⟨(padCell_of_fits hfit).1.width, (padCell_of_fits hfit).2.1⟩ ih
  have hfilled : List.Forall₂ (fun c part => c.1.FilledTo c.2 part) (cells.zip widths) (filledParts widths cells) := by
    rw [filledParts, List.forall₂_map_right_iff, List.forall₂_same]
    exact fun c hc => (padCell_of_fits ((List.forall₂_iff_zip.1 h).2 hc)).1
  obtain ⟨⟨blanks, hblank, htrim⟩, hends⟩ := Text.trimEnd_append_blanks (gap.intercalate (filledParts widths cells))
  change gap.intercalate (filledParts widths cells) = lineText widths cells ++ blanks at htrim
  refine ⟨h.length_eq, hfilled, ⟨blanks, hblank, htrim⟩, hends, fun i hi => ⟨shownWidth_beforeColumn hparts i, ?_⟩⟩
  -- the line and what stands before the column both begin the text that was trimmed
  have hsplit := intercalate_eq_beforeColumn_append (hparts.length_eq ▸ hi)
  rcases List.prefix_or_prefix_of_prefix (⟨blanks, htrim.symm⟩ : lineText widths cells <+: _) ⟨_, hsplit.symm⟩ with
    hline | ⟨rest, hrest⟩
  · exact .inl hline
  · refine .inr ⟨rest, hrest.symm, blanks, ?_⟩
    rw [hsplit, ← hrest, List.append_assoc] at htrim
    exact (List.append_cancel_left htrim).symm

theorem not_mem_lineText {widths : List Nat} {cells : List Cell} (h : List.Forall₂ Cell.Fits cells widths) :
    '\n' ∉ lineText widths cells := by
  intro hmem
  obtain ⟨⟨blanks, -, htrim⟩, -⟩ := Text.trimEnd_append_blanks (gap.intercalate (filledParts widths cells))
  have hfull : '\n' ∈ gap.intercalate (filledParts widths cells) := by
    rw [htrim]
    exact List.mem_append_left blanks hmem
  rcases Text.mem_of_mem_intercalate hfull with hgap | ⟨part, hpart, hbreak⟩
  · exact absurd hgap (by decide)
  · obtain ⟨p, hp, rfl⟩ := List.mem_map.1 hpart
    exact (padCell_of_fits ((List.forall₂_iff_zip.1 h).2 hp)).2.2 hbreak

/-! ### Tables -/

/-- Rows have one cell for every header, and no cell has a line break. -/
structure Regular (t : TextTable) : Prop where
  length : ∀ row ∈ t.rows, row.length = t.headers.length
  flat : ∀ row ∈ t.rows, ∀ cell ∈ row, '\n' ∉ cell.text

end TextTable

theorem Cell.flat_ofValue (v : Option Value) : '\n' ∉ (Cell.ofValue v).text := by
  cases v with
  | none => exact List.not_mem_nil
  | some v => exact not_mem_flattenCell _

namespace TextTable

theorem Built.regular {t : TextTable} (h : t.Built) : t.Regular := by
  induction h with
  | empty headers => exact ⟨fun row hrow => (nomatch hrow), fun row hrow => (nomatch hrow)⟩
  | ofBags l =>
    constructor
    · intro row hrow
      obtain ⟨bag, -, rfl⟩ := List.mem_map.1 hrow
      exact List.length_map _
    · intro row hrow cell hcell
      obtain ⟨bag, -, rfl⟩ := List.mem_map.1 hrow
      obtain ⟨column, -, rfl⟩ := List.mem_map.1 hcell
      exact Cell.flat_ofValue _
  | @push t values _ ih =>
    constructor
    · refine List.forall_mem_append.2 ⟨ih.length, List.forall_mem_singleton.2 ?_⟩
      rw [List.length_map, List.length_range]
      rfl
    · refine List.forall_mem_append.2 ⟨ih.flat, List.forall_mem_singleton.2 fun cell hcell => ?_⟩
      obtain ⟨i, -, rfl⟩ := List.mem_map.1 hcell
      exact Cell.flat_ofValue _

/-! ### Widths -/

theorem isGreatest_foldl_max {α : Type} (f : α → Nat) : ∀ (rows : List α) (w : Nat),
    IsGreatest {n | n = w ∨ ∃ row ∈ rows, n = f row} (rows.foldl (fun w row => max w (f row)) w)
  | [], w => by
    refine ⟨.inl rfl, ?_⟩
    rintro n (rfl | ⟨row, hrow, -⟩)
    · exact Nat.le_refl n
    · cases hrow
  | row :: rows, w => by
    obtain ⟨hmem, hbound⟩ := isGreatest_foldl_max f rows (max w (f row))
    have hmax := hbound (.inl rfl)
    rw [List.foldl_cons]
    constructor
    · rcases hmem with hfirst | ⟨row', hrow', hf⟩
      · rcases Nat.le_total w (f row) with hle | hle
        · exact .inr ⟨row, List.mem_cons_self, hfirst.trans (Nat.max_eq_right hle)⟩
        · exact .inl (hfirst.trans (Nat.max_eq_left hle))
      · exact .inr ⟨row', List.mem_cons_of_mem _ hrow', hf⟩
    · rintro n (rfl | ⟨row', hrow', rfl⟩)
      · exact (Nat.le_max_left ..).trans hmax
      · rcases List.mem_cons.1 hrow' with rfl | hrow'
        · exact (Nat.le_max_right ..).trans hmax
        · exact hbound (.inr ⟨row', hrow', rfl⟩)

/-- **A column is as wide as the widest of what it has to have room for.** -/
theorem isGreatest_columnWidth (t : TextTable) (i : Nat) (header : String) :
    IsGreatest (t.widthsIn i header) (t.columnWidth i header) := by
  obtain ⟨hmem, hbound⟩ := isGreatest_foldl_max (fun row : List Cell => (row[i]?.map fun c => shownWidth c.text).getD 0)
    t.rows (max 3 (shownWidth header.toList))
  change t.columnWidth i header ∈ _ at hmem
  change t.columnWidth i header ∈ upperBounds _ at hbound
  have hfirst := hbound (.inl rfl)
  constructor
  · rcases hmem with hw | ⟨row, hrow, hw⟩
    · rcases Nat.le_total 3 (shownWidth header.toList) with hle | hle
      · exact .inr (.inl (hw.trans (Nat.max_eq_right hle)))
      · exact .inl (hw.trans (Nat.max_eq_left hle))
    · cases hcell : row[i]? with
      | none =>
        -- a column has at least three characters, so a row without a cell in it is not the widest
        rw [hcell] at hw
        have : t.columnWidth i header = 0 := hw
        omega
      | some cell =>
        rw [hcell] at hw
        exact .inr (.inr ⟨row, hrow, cell, hcell, hw⟩)
  · rintro n (rfl | rfl | ⟨row, hrow, cell, hcell, rfl⟩)
    · exact (Nat.le_max_left ..).trans hfirst
    · exact (Nat.le_max_right ..).trans hfirst
    · refine hbound (.inr ⟨row, hrow, ?_⟩)
      rw [hcell]
      rfl

theorem getElem?_widths (t : TextTable) (i : Nat) : t.widths[i]? = t.headers[i]?.map (t.columnWidth i) := by
  rw [widths, List.getElem?_map, List.getElem?_zipIdx]
  cases t.headers[i]? with
  | none => rfl
  | some header => simp

theorem length_widths (t : TextTable) : t.widths.length = t.headers.length := by
  rw [widths, List.length_map, List.length_zipIdx]

theorem exists_header {t : TextTable} {i width : Nat} (h : t.widths[i]? = some width) :
    ∃ header, t.headers[i]? = some header ∧ width = t.columnWidth i header := by
  rw [getElem?_widths, Option.map_eq_some_iff] at h
  obtain ⟨header, hheader, hwidth⟩ := h
  exact ⟨header, hheader, hwidth.symm⟩

/-! ### The lines of a table -/

/-- Cells fit the columns when each of them fits the column of the header in its place. -/
theorem forall₂_fits {t : TextTable} {cells : List Cell} (hlength : cells.length = t.headers.length)
    (h : ∀ (i : Nat) (cell : Cell) (header : String), cells[i]? = some cell → t.headers[i]? = some header →
      cell.Fits (t.columnWidth i header)) :
    List.Forall₂ Cell.Fits cells t.widths := by
  refine List.forall₂_iff_zip.2 ⟨hlength.trans t.length_widths.symm, fun {cell width} hmem => ?_⟩
  obtain ⟨i, hi⟩ := List.mem_iff_getElem?.1 hmem
  obtain ⟨hcell, hwidth⟩ := List.getElem?_zip_eq_some.1 hi
  obtain ⟨header, hheader, rfl⟩ := exists_header hwidth
  exact h i cell header hcell hheader

theorem fits_row {t : TextTable} (ht : t.Regular) {row : List Cell} (hrow : row ∈ t.rows)
    (hends : ∀ cell ∈ row, endsHidden cell.text = false) : List.Forall₂ Cell.Fits row t.widths := by
  refine forall₂_fits (ht.length row hrow) fun i cell header hcell _ => ?_
  have hin : cell ∈ row := List.mem_of_getElem? hcell
  exact ⟨hends cell hin, (t.isGreatest_columnWidth i header).2 (.inr (.inr ⟨row, hrow, cell, hcell, rfl⟩)),
    ht.flat row hrow cell hin⟩

theorem fits_headerCells {t : TextTable} (hends : ∀ header ∈ t.headers, endsHidden header.toList = false) :
    List.Forall₂ Cell.Fits t.headerCells t.widths := by
  refine forall₂_fits (by rw [headerCells, List.length_map]) fun i cell header hcell hheader => ?_
  rw [headerCells, List.getElem?_map, hheader] at hcell
  cases hcell
  refine ⟨?_, ?_, not_mem_flattenCell _⟩
  · rw [endsHidden_flattenCell]
    exact hends header (List.mem_of_getElem? hheader)
  · rw [shownWidth_flattenCell]
    exact (t.isGreatest_columnWidth i header).2 (.inr (.inl rfl))

theorem fits_dashes (t : TextTable) : List.Forall₂ Cell.Fits t.dashes t.widths := by
  have hdash : ('-' : Char) ≠ '\x1b' := by decide
  rw [dashes, List.forall₂_map_left_iff, List.forall₂_same]
  refine fun w _ => ⟨endsHidden_replicate hdash w, (shownWidth_replicate hdash w).le, fun hmem => ?_⟩
  cases List.eq_of_mem_replicate hmem

theorem getLast?_intercalate_gap : ∀ {parts : List (List Char)}, parts ≠ [] → (∀ part ∈ parts, part ≠ []) →
    ∃ c, (gap.intercalate parts).getLast? = some c ∧ ∃ part ∈ parts, c ∈ part
  | [], h, _ => absurd rfl h
  | [part], _, h => by
    refine ⟨_, ?_, part, List.mem_singleton_self part, List.getLast_mem (h part (List.mem_singleton_self part))⟩
    rw [List.intercalate_singleton, List.getLast?_eq_some_getLast]
  | part :: next :: parts, _, h => by
    obtain ⟨c, hc, part', hpart', hmem⟩ :=
      getLast?_intercalate_gap (List.cons_ne_nil next parts) fun part' hpart' => h part' (List.mem_cons_of_mem _ hpart')
    exact ⟨c, by rw [List.intercalate_cons_cons, List.getLast?_append, hc, Option.some_or], part',
      List.mem_cons_of_mem _ hpart', hmem⟩

theorem three_le_of_mem_widths {t : TextTable} {w : Nat} (h : w ∈ t.widths) : 3 ≤ w := by
  obtain ⟨i, hi⟩ := List.mem_iff_getElem?.1 h
  obtain ⟨header, -, rfl⟩ := exists_header hi
  exact (t.isGreatest_columnWidth i header).2 (.inl rfl)

theorem filledParts_dashes (t : TextTable) :
    filledParts t.widths t.dashes = t.widths.map fun w => List.replicate w '-' := by
  have hpad (w : Nat) : padCell ⟨List.replicate w '-', false⟩ w = List.replicate w '-' := by
    rw [padCell, shownWidth_replicate (by decide), Nat.sub_self]
    exact List.append_nil _
  rw [filledParts, dashes]
  induction t.widths with
  | nil => rfl
  | cons w widths ih => rw [List.map_cons, List.zip_cons_cons, List.map_cons, ih, hpad, List.map_cons]

/-- Dashes take the whole width of a column, and there is nothing to be trimmed behind them. -/
theorem lineText_dashes (t : TextTable) :
    lineText t.widths t.dashes = gap.intercalate (t.widths.map fun w => List.replicate w '-') := by
  rw [lineText, filledParts_dashes, Text.trimEnd_eq_self_iff]
  intro c hc
  by_cases hnil : t.widths = []
  · rw [hnil] at hc
    cases hc
  · have hparts : ∀ part ∈ t.widths.map fun w => List.replicate w '-', part ≠ [] := fun part hpart => by
      obtain ⟨w, hw, rfl⟩ := List.mem_map.1 hpart
      have hwide := three_le_of_mem_widths hw
      exact List.ne_nil_of_length_pos (by rw [List.length_replicate]; omega)
    obtain ⟨c', hc', part, hpart, hmem⟩ := getLast?_intercalate_gap (mt List.map_eq_nil_iff.1 hnil) hparts
    obtain ⟨w, -, rfl⟩ := List.mem_map.1 hpart
    rw [hc', Option.mem_some_iff] at hc
    rw [← hc, List.eq_of_mem_replicate hmem]
    rfl

/-- **The text of a table is its lines**, each with a line break behind it. -/
theorem render_eq (t : TextTable) : t.render =
    String.ofList (((t.headerCells :: t.dashes :: t.rows).map (lineText t.widths)).flatMap (· ++ ['\n'])) := by
  rw [render, List.map_cons, List.map_cons, List.flatMap_cons, List.flatMap_cons, List.flatMap_map, lineText_dashes,
    List.append_assoc]
  rfl

/-- **Tables are written in columns**, each as wide as the widest of three characters, its header and its cells, as long
as no escape sequence in a header or cell is without its end. -/
theorem Built.aligned {t : TextTable} (h : t.Built) (hheaders : ∀ header ∈ t.headers, endsHidden header.toList = false)
    (hcells : ∀ row ∈ t.rows, ∀ cell ∈ row, endsHidden cell.text = false) : t.Aligned := by
  have hregular := h.regular
  have hfits : ∀ cells ∈ t.headerCells :: t.dashes :: t.rows, List.Forall₂ Cell.Fits cells t.widths :=
    List.forall_mem_cons.2 ⟨fits_headerCells hheaders, List.forall_mem_cons.2 ⟨t.fits_dashes,
      fun row hrow => fits_row hregular hrow (hcells row hrow)⟩⟩
  refine ⟨fun row hrow => (hregular.length row hrow).trans t.length_widths.symm, t.length_widths,
    fun i header hheader => ⟨_, ?_, t.isGreatest_columnWidth i header⟩, _, t.render_eq, ?_, fun line hline => ?_, ?_⟩
  · rw [getElem?_widths, hheader, Option.map_some]
  · rw [List.length_map]
    rfl
  · obtain ⟨cells, hmem, rfl⟩ := List.mem_map.1 hline
    exact not_mem_lineText (hfits cells hmem)
  · rw [List.forall₂_map_right_iff, List.forall₂_same]
    exact fun cells hmem => ⟨_, lineOf_lineText (hfits cells hmem)⟩

/-- A name in red, which is no wider than it shows, a name over two lines, and no total for the second row. -/
theorem aligned_totals :
    let t : TextTable :=
      ((TextTable.empty ["name", "total"]).push [.text "\x1b[31mAnn\x1b[0m", .long 7]).push [.text "Al\nBo"]
    t.Built ∧ (∀ header ∈ t.headers, endsHidden header.toList = false) ∧
      (∀ row ∈ t.rows, ∀ cell ∈ row, endsHidden cell.text = false) ∧ t.Aligned ∧ t.widths = [5, 5] ∧
      t.render = "name   total\n-----  -----\n\x1b[31mAnn\x1b[0m        7\nAl Bo\n" := by
  intro t
  have hbuilt : t.Built := (Built.empty _).push _ |>.push _
  have hheaders : ∀ header ∈ t.headers, endsHidden header.toList = false := by decide +kernel
  have hcells : ∀ row ∈ t.rows, ∀ cell ∈ row, endsHidden cell.text = false := by decide +kernel
  exact ⟨hbuilt, hheaders, hcells, hbuilt.aligned hheaders hcells, by decide +kernel, by decide +kernel⟩

end TextTable

end QueryRows
