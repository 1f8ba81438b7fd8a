import QueryRows.Json.Layout
import QueryRows.Json.Syntax
import QueryRows.Record
import QueryRows.Bag
/-!
# Exchange — values and records in JSON

Values are written with decimals and dates as strings, bytes as numbers and an enumeration as its name.  Reading is
not the inverse: whole numbers become longs, and a list or an inner object stays the text of its JSON.
-/
namespace QueryRows

/-- **A value in JSON.** -/
def Value.toJson : Value → Json
  | .null => .null
  | .text s => .string s
  | .int n => .whole n.toInt
  | .long n => .whole n.toInt
  | .short n => .whole n.toInt
  | .byte n => .whole n.toInt
  | .float x => .float x
  | .decimal d => .string d.text
  | .boolean b => .bool b
  | .date d => .string d.text
  | .datetime t => .string t.fullText
  | .bytes bs => .array (bs.map fun b => .whole b.toNat)
  | .enumeration e => .object [("name", .string e.name)]

/-- A bag in JSON, with its fields in their order. -/
def Bag.toJson (b : Bag) : Json := .object (b.fields.map fun f => (f.1, f.2.toJson))

def BagList.toJson (l : BagList) : Json := .array (l.rows.map Bag.toJson)

/-- **A value read from JSON**: a whole number that fits is a long, and what has parts stays JSON text. -/
def Value.ofJson : Json → Value
  | .null => .null
  | .bool b => .boolean b
  | .whole n => if -2 ^ 63 ≤ n ∧ n < 2 ^ 63 then .long (Int64.ofInt n) else .float (Float.ofInt n)
  | .float x => .float x
  | .string s => .text s
  | j => .text j.compact

/-- An item read from JSON: an object is a node, anything else a single value. -/
def Item.ofJson : Json → Item
  | .object members => .node (members.map fun m => (m.1, Value.ofJson m.2))
  | j => .scalar (Value.ofJson j)

def Record.ofMembers (members : List (String × Json)) : Record := members.map fun m => (m.1, Item.ofJson m.2)

/-- **Records read from JSON**, which has to be an array of objects. -/
def recordsOfJson? (j : Json) : Option (List Record) :=
  (j.elements?.bind fun elements => elements.mapM Json.members?).map fun rows => rows.map Record.ofMembers

end QueryRows
