import QueryRows.Fill.Compile
import QueryRows.Metadata
import QueryRows.Relation
/-!
# Mapping — from a configuration to the plans that map records

A configuration names the classes of tables and rows, the fillers, the style of columns and the relation.  Compiling
it looks everything up once (`Mapping.compile`); what a mapping learns from records afterwards is kept apart from it,
in a `FieldMemory`.
-/
namespace QueryRows

/-- How records are mapped. -/
structure MappingConfig where
  table : Option Class
  row : Option Class
  fill : Option String
  rowFill : Option String
  style : NameStyle
  relationKeys : Option String

/-- One choice in a configuration. -/
inductive Setting where
  | table (c : Class)
  | row (c : Class)
  | fill (spec : String)
  | rowFill (spec : String)
  | style (style : NameStyle)
  | relationKeys (keys : String)

namespace MappingConfig

def empty : MappingConfig := ⟨none, none, none, none, .upper, none⟩

/-- **The configuration with another choice.** -/
def set (c : MappingConfig) : Setting → MappingConfig
  | .table cls => { c with table := some cls }
  | .row cls => { c with row := some cls }
  | .fill spec => { c with fill := some spec }
  | .rowFill spec => { c with rowFill := some spec }
  | .style style => { c with style }
  | .relationKeys keys => { c with relationKeys := some keys }

def defaultFill : String := "add(row)"

def defaultRowFill : String := "put(colName, colValue)"

end MappingConfig

/-- Why records are not mapped. -/
inductive MappingError where
  | compile (e : CompileError)
  /-- a field did not go into the row of a record -/
  | row (rowNo : Nat) (field : String) (cause : InvokeError)
  /-- the row of a record did not go into the table -/
  | table (rowNo : Nat) (cause : InvokeError)
deriving DecidableEq

namespace MappingError

def message : MappingError → String
  | .compile e => e.message
  | .row rowNo field cause => "RowNo=" ++ toString rowNo ++ " ColName=" ++ field ++ ": " ++ cause.message
  | .table rowNo cause => "Filling row " ++ toString rowNo ++ " into the table failed: " ++ cause.message

def rowNo? : MappingError → Option Nat
  | .compile _ => none
  | .row rowNo _ _ => some rowNo
  | .table rowNo _ => some rowNo

end MappingError

/-- A compiled configuration. -/
structure Mapping where
  table : Class
  row : Class
  tablePlan : FillPlan
  rowFiller : RowFiller
  relation : Option RelationGroup

def requireClass (part : RequiredClass) : Option Class → Except CompileError Class
  | some c => .ok c
  | none => .error (.missingClass part)

/-- The relation of the keys, if there are any. -/
def compileRelation (row : Class) : Option String → Except CompileError (Option RelationGroup)
  | some keys => RelationGroup.compile keys row
  | none => .ok none

/-- **Compiles a configuration**: the classes first, then the table filler, the row filler and the relation. -/
def Mapping.compile (c : MappingConfig) : Except CompileError Mapping := do
  let table ← requireClass .table c.table
  let row ← requireClass .row c.row
  let tablePlan ← compileTableFiller (c.fill.getD MappingConfig.defaultFill) table row
  let rowFiller ← compileRowFiller (c.rowFill.getD MappingConfig.defaultRowFill) row
  let relation ← compileRelation row c.relationKeys
  return ⟨table, row, tablePlan, rowFiller, relation⟩

end QueryRows
