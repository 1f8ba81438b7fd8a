import QueryRows.Value
import QueryRows.Text.Split
/-!
# Record — what a query answers

A record is an ordered list of named items.  An item is a node with named properties or a single value; both come
down to a stream of fields (`Record.fields`), which is all that mapping looks at.
-/
namespace QueryRows

/-- One item of a record. -/
inductive Item where
  | node (properties : List (String × Value))
  | scalar (value : Value)

/-- The items of one answer, each with its name. -/
abbrev Record := List (String × Item)

/-- **The field that a single value is**: what follows the first point of the item's name, or the whole name. -/
def scalarFieldName (itemName : String) : String :=
  match Text.splitOnce '.' itemName.toList with
  | some (_, rest) => String.ofList rest
  | none => itemName

/-- The fields of an item: a node's properties under their own names, a single value under its field name. -/
def Item.fields (name : String) : Item → List (String × Value)
  | .node properties => properties
  | .scalar v => [(scalarFieldName name, v)]

/-- **The fields of a record**, item by item and property by property. -/
def Record.fields (r : Record) : List (String × Value) := r.flatMap fun item => item.2.fields item.1

end QueryRows
