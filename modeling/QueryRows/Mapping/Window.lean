/-!
# Window — the records that one run maps

Records are numbered from zero.  A window of a positive size takes that many records from a start, which keep their
numbers; size zero takes all records, whatever the start.
-/
namespace QueryRows

/-- Elements with their ordinals, counted from `n`. -/
def numberFrom {α : Type} (n : Nat) : List α → List (Nat × α)
  | [] => []
  | x :: xs => (n, x) :: numberFrom (n + 1) xs

/-- **The records of a window**, with their ordinals. -/
def windowed {α : Type} (start size : Nat) (records : List α) : List (Nat × α) :=
  if size = 0 then numberFrom 0 records else numberFrom start ((records.drop start).take size)

end QueryRows
