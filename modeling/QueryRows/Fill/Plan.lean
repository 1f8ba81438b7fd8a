import QueryRows.Fill.Path
/-!
# Plan — an operation with a source for each of its arguments

A plan is compiled once and then carried out for every record: for a table it hands over the finished row, for a
row it hands over one field.
-/
namespace QueryRows

/-- Where an argument comes from. -/
inductive ParamSource where
  /-- the finished row itself -/
  | row
  /-- how many rows the table has already -/
  | ordinal
  /-- a path read from the finished row -/
  | field (path : FieldPath)
  /-- the value of the field at hand -/
  | value
  /-- the name of the field at hand -/
  | name

/-- A method, the sources of its arguments, and the nested property whose object it is called on. -/
structure FillPlan where
  method : Method
  params : List ParamSource
  nested : Option (Nested Class)

namespace FillPlan

/-- The kind that the method declares for its first parameter. -/
def targetKind (p : FillPlan) : Kind := p.method.params.headD .any

/-- **A row count as a value**: an int where one is declared and a long elsewhere, if it fits. -/
def ordinalValue (count : Nat) (kind : Kind) : Except InvokeError Value :=
  match kind with
  | .int =>
    if count < 2 ^ 31 then .ok (.int (Int32.ofNat count)) else .error (.value (.outOfRange (toString count) target))
  | _ =>
    if count < 2 ^ 63 then .ok (.long (Int64.ofNat count)) else .error (.value (.outOfRange (toString count) target))
where
  /-- what the count does not fit -/
  target : String := "row ordinal"

/-- The arguments of a table operation, in order.  The row can be handed over once; any further place for it gets
null. -/
def tableArguments (row : Obj) (added : Nat) :
    Bool → List (ParamSource × Kind) → Except InvokeError (List (Arg Obj))
  | _, [] => .ok []
  | here, (.ordinal, kind) :: rest =>
    match ordinalValue added kind with
    | .ok v => (tableArguments row added here rest).map (.value v :: ·)
    | .error e => .error e
  | here, (.field path, _) :: rest =>
    match path.read row with
    | .ok v => (tableArguments row added here rest).map (.value v :: ·)
    | .error e => .error e
  | here, _ :: rest =>
    (tableArguments row added false rest).map ((if here then .object row else .value .null) :: ·)

/-- **Hands a finished row to a table** that has `added` rows already: the table afterwards. -/
def invokeTable (p : FillPlan) (table row : Obj) (added : Nat) : Except InvokeError Obj :=
  match tableArguments row added true (p.params.zip p.method.params) with
  | .ok args => p.method.invoke table args
  | .error e => .error e

def rowArgument (field : String) (v : Value) : ParamSource → Arg Obj
  | .name => .value (.text field)
  | _ => .value v

/-- **Hands one field to a row**: the row afterwards. -/
def invokeRow (p : FillPlan) (row : Obj) (field : String) (v : Value) : Except InvokeError Obj :=
  p.method.invoke row (p.params.map (rowArgument field v))

/-- **Hands a value to the setter of a field**, on the row or on its nested object, which is created where it is
missing: the row afterwards, and the failure if there is one. -/
def invokeField (p : FillPlan) (row : Obj) (v : Value) : Obj × Except InvokeError Unit :=
  match p.nested with
  | none =>
    match p.method.invoke row [.value v] with
    | .ok row' => (row', .ok ())
    | .error e => (row, .error e)
  | some n =>
    match n.ensure row (!v.isNull) with
    | .error e => (row, .error e)
    | .ok row' =>
      match n.current? row' with
      | none => (row', .ok ())
      | some target =>
        match p.method.invoke target [.value v] with
        | .ok target' => (n.setCurrent row' target', .ok ())
        | .error e => (row', .error e)

end FillPlan

/-- How the fields of a record get into a row. -/
inductive RowFiller where
  /-- every field by the same operation -/
  | fixed (plan : FillPlan)
  /-- every field by its own setter -/
  | perField

end QueryRows
