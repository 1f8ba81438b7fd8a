import QueryRows.Mapping.Memory
import QueryRows.Mapping.Window
import QueryRows.Record
/-!
# Run — records mapped one after the other

Every record fills a fresh row, field by field.  Without a relation the row goes to the table at once; with one it
waits until a row with other keys displaces it.  The first failure ends the run, and what the fields have taught up
to then stays.
-/
namespace QueryRows

/-- A table being filled: how many rows it has been given, and the row that waits. -/
structure Assembly where
  table : Obj
  added : Nat
  pending : Option PendingRow

namespace Mapping

/-- **Fills one field into a row.**  A fixed operation gets the value as it is; a setter gets it as the kind it
declares, and a field without one is left out. -/
def fillField (m : Mapping) (mem : FieldMemory) (rowNo : Nat) (row : Obj) (field : String) (v : Value) :
    FieldMemory × Except MappingError Obj :=
  let mem := mem.observe field
  match m.rowFiller with
  | .fixed plan =>
    match plan.invokeRow row field v with
    | .ok row' => (mem, .ok row')
    | .error e => (mem, .error (.row rowNo field e))
  | .perField =>
    match mem.planFor m.row field with
    | (none, mem) => (mem, .ok row)
    | (some plan, mem) =>
      match mem.coercions.coerce field v plan.targetKind with
      | (.error e, coercions) => ({ mem with coercions }, .error (.row rowNo field (.coercion e)))
      | (.ok v', coercions) =>
        match plan.invokeField row v' with
        | (row', .ok ()) => ({ mem with coercions }, .ok row')
        | (_, .error e) => ({ mem with coercions }, .error (.row rowNo field e))

/-- Fills fields one after the other, up to the first failure. -/
def fillFields (m : Mapping) (mem : FieldMemory) (rowNo : Nat) (row : Obj) :
    List (String × Value) → FieldMemory × Except MappingError Obj
  | [] => (mem, .ok row)
  | (field, v) :: fields =>
    match m.fillField mem rowNo row field v with
    | (mem, .ok row') => m.fillFields mem rowNo row' fields
    | (mem, .error e) => (mem, .error e)

/-- **The row of a record.** -/
def fillRow (m : Mapping) (mem : FieldMemory) (rowNo : Nat) (r : Record) : FieldMemory × Except MappingError Obj :=
  m.fillFields mem rowNo m.row.instantiate r.fields

/-- Hands a row to the table; `rowNo` is the record it came from. -/
def append (m : Mapping) (a : Assembly) (row : Obj) (rowNo : Nat) : Except MappingError Assembly :=
  match m.tablePlan.invokeTable a.table row a.added with
  | .ok table => .ok { a with table, added := a.added + 1 }
  | .error e => .error (.table rowNo e)

/-- What stands for the field when the keys of a row are at fault. -/
def relationField : String := "<relation keys>"

/-- **Takes in the row of a record**: it goes to the table, or into the relation, which may give another row
free. -/
def takeRow (m : Mapping) (a : Assembly) (row : Obj) (rowNo : Nat) : Except MappingError Assembly :=
  match m.relation with
  | none => m.append a row rowNo
  | some g =>
    match g.fold a.pending row rowNo with
    | (_, .error e) => .error (.row rowNo relationField e)
    | (pending, .ok none) => .ok { a with pending }
    | (pending, .ok (some done)) => m.append { a with pending } done.row done.rowNo

def finish (m : Mapping) (a : Assembly) : Except MappingError Assembly :=
  match a.pending with
  | none => .ok a
  | some done => m.append { a with pending := none } done.row done.rowNo

/-- Maps numbered records onto what is there already. -/
def mapRecords (m : Mapping) (mem : FieldMemory) (a : Assembly) :
    List (Nat × Record) → FieldMemory × Except MappingError Assembly
  | [] => (mem, m.finish a)
  | (rowNo, record) :: records =>
    match m.fillRow mem rowNo record with
    | (mem, .error e) => (mem, .error e)
    | (mem, .ok row) =>
      match m.takeRow a row rowNo with
      | .ok a' => m.mapRecords mem a' records
      | .error e => (mem, .error e)

def start (m : Mapping) : Assembly := ⟨m.table.instantiate, 0, none⟩

/-- **Maps the records of a window into a fresh table.** -/
def run (m : Mapping) (mem : FieldMemory) (records : List Record) (start size : Nat) :
    FieldMemory × Except MappingError Assembly :=
  m.mapRecords mem m.start (windowed start size records)

end Mapping

end QueryRows
