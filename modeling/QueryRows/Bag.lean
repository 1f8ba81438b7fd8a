import QueryRows.Value
/-!
# Bag — rows that hold whatever fields a record has

A bag keeps its fields in the order they were first put, and a later value under a name takes the place of the
earlier one.  A bag list collects bags; its columns are all their field names in the order of first appearance.
-/
namespace QueryRows

/-- Fields in the order they were first put. -/
structure Bag where
  fields : List (String × Value)
deriving Inhabited

namespace Bag

def empty : Bag := ⟨[]⟩

def putField (name : String) (v : Value) : List (String × Value) → List (String × Value)
  | [] => [(name, v)]
  | f :: rest => if f.1 = name then (f.1, v) :: rest else f :: putField name v rest

/-- **Puts a value under a name**, in the place of an earlier one or at the end. -/
def put (b : Bag) (name : String) (v : Value) : Bag := ⟨putField name v b.fields⟩

def get? (b : Bag) (name : String) : Option Value := (b.fields.find? fun f => f.1 == name).map (·.2)

def size (b : Bag) : Nat := b.fields.length

def ofList (fields : List (String × Value)) : Bag := fields.foldl (fun b f => b.put f.1 f.2) empty

/-- The same fields in the same order, with the same values. -/
def same (a b : Bag) : Bool :=
  a.fields.map (·.1) == b.fields.map (·.1) && Value.sameAll (a.fields.map (·.2)) (b.fields.map (·.2))

end Bag

/-- Bags in the order they were added. -/
structure BagList where
  rows : List Bag
deriving Inhabited

namespace BagList

def empty : BagList := ⟨[]⟩

def add (l : BagList) (b : Bag) : BagList := ⟨l.rows ++ [b]⟩

def size (l : BagList) : Nat := l.rows.length

/-- **The field names of all bags, in the order of their first appearance.** -/
def columns (l : BagList) : List String :=
  (l.rows.flatMap fun b => b.fields.map (·.1)).foldl
    (fun seen name => if seen.contains name then seen else seen ++ [name]) []

end BagList

end QueryRows
