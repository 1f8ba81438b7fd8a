import QueryRows.Fill.Compile
/-!
# Relation — consecutive rows that belong together

A relation names keys of the row class.  A row whose keys equal those of the pending row gives its collection
elements to the pending row and is gone; any other row displaces the pending one.
-/
namespace QueryRows

/-- The keys that rows are compared by, and the collections that are gathered. -/
structure RelationGroup where
  keys : List FieldPath
  collections : List (Nested Class)

/-- The row that waits for its continuation. -/
structure PendingRow where
  row : Obj
  keys : List Value
  rowNo : Nat

namespace RelationGroup

/-- The key names in a list separated by commas; blank names do not count. -/
def keyNames (text : String) : List String :=
  (((Text.split ',' text.toList).map Text.trim).filter fun k => !k.isEmpty).map String.ofList

/-- **Compiles a relation**; without keys or without collections there is none. -/
def compile (text : String) (row : Class) : Except CompileError (Option RelationGroup) := do
  let keys ← (keyNames text).mapM (compilePath row)
  if keys.isEmpty || row.collections.isEmpty then return none
  return some ⟨keys, row.collections⟩

/-- Reads paths in order, up to the first failure. -/
def readAll (row : Obj) : List FieldPath → Except InvokeError (List Value)
  | [] => .ok []
  | key :: keys =>
    match key.read row with
    | .ok v => (readAll row keys).map (v :: ·)
    | .error e => .error e

/-- **The key values of a row.** -/
def keyValues (g : RelationGroup) (row : Obj) : Except InvokeError (List Value) := readAll row g.keys

/-- What is left of two rows after merging, and the failure if there is one. -/
structure Merged where
  into : Obj
  rest : Obj
  outcome : Except InvokeError Unit

/-- Moves the elements of collections from one row into another, up to the first failure. -/
def mergeCollections (into rest : Obj) : List (Nested Class) → Merged
  | [] => ⟨into, rest, .ok ()⟩
  | n :: ns =>
    let (elements, rest') := n.takeAll rest
    match n.absorb into elements with
    | (into', .ok ()) => mergeCollections into' rest' ns
    | (into', .error e) => ⟨into', rest', .error e⟩

/-- **Moves every collection element of a row into another row.** -/
def merge (g : RelationGroup) (into row : Obj) : Merged := mergeCollections into row g.collections

/-- **Folds a row into the pending one**: the pending row afterwards, and the row that was displaced if the new
one starts a group. -/
def fold (g : RelationGroup) (pending : Option PendingRow) (row : Obj) (rowNo : Nat) :
    Option PendingRow × Except InvokeError (Option PendingRow) :=
  match g.keyValues row with
  | .error e => (pending, .error e)
  | .ok keys =>
    match pending with
    | some p =>
      if Value.sameAll p.keys keys then
        let m := g.merge p.row row
        (some { p with row := m.into }, m.outcome.map fun _ => none)
      else (some ⟨row, keys, rowNo⟩, .ok (some p))
    | none => (some ⟨row, keys, rowNo⟩, .ok none)

end RelationGroup

end QueryRows
