import QueryRows.Mapping
import QueryRows.Coercion.Cache
/-!
# Memory — what a mapping keeps of the fields it has met

The plan of a field, the coercion rule of a field and the fields whose columns are noted are worked out when a field
comes up for the first time and looked up afterwards.
-/
namespace QueryRows

/-- The plans, rules and columns of the fields met so far. -/
structure FieldMemory where
  plans : List (String × Option FillPlan)
  coercions : CoercionCache
  seen : List String
  metadata : Metadata

namespace FieldMemory

def empty (style : NameStyle) : FieldMemory := ⟨[], .empty, [], .empty style⟩

/-- **Notes a field**: its column is added the first time the field comes up. -/
def observe (mem : FieldMemory) (field : String) : FieldMemory :=
  if mem.seen.contains field then mem
  else { mem with seen := mem.seen ++ [field], metadata := mem.metadata.add field }

/-- **The plan of a field on rows of a class**, compiled now if the field is new. -/
def planFor (mem : FieldMemory) (row : Class) (field : String) : Option FillPlan × FieldMemory :=
  match mem.plans.lookup field with
  | some plan => (plan, mem)
  | none =>
    let plan := compileFieldPlan field row
    (plan, { mem with plans := mem.plans ++ [(field, plan)] })

end FieldMemory

end QueryRows
