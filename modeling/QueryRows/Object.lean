import QueryRows.Bag
import QueryRows.NameMap
/-!
# Object — what rows and tables are made of

An object is an entity, a bag or a list of bags.  An entity belongs to a numbered type and keeps named fields, a
journal of the operations recorded on it, slots for single nested objects and slots for collections of them.
-/
namespace QueryRows

/-- What an operation says about objects of other types is decided by their type. -/
inductive ObjectType where
  | entity (tag : Nat)
  | bag
  | bagList
deriving DecidableEq

/-- An argument of an operation: a value or an object. -/
inductive Arg (O : Type) where
  | value (v : Value)
  | object (o : O)

/-- An operation written into a journal. -/
structure JournalEntry (O : Type) where
  label : String
  args : List (Arg O)

/-- An object with declared fields. -/
structure Entity (O : Type) where
  tag : Nat
  fields : NameMap Value
  journal : List (JournalEntry O)
  one : Nat → Option O
  many : Nat → List O

/-- An object. -/
inductive Obj where
  | entity (e : Entity Obj)
  | bag (b : Bag)
  | bagList (l : BagList)

def Entity.blank {O : Type} (tag : Nat) : Entity O := ⟨tag, .empty, [], fun _ => none, fun _ => []⟩

def Obj.type : Obj → ObjectType
  | .entity e => .entity e.tag
  | .bag _ => .bag
  | .bagList _ => .bagList

def ObjectType.fresh : ObjectType → Obj
  | .entity tag => .entity (.blank tag)
  | .bag => .bag .empty
  | .bagList => .bagList .empty

theorem type_fresh (t : ObjectType) : t.fresh.type = t := by cases t <;> rfl

/-- The same named values. -/
def sameFields (a b : NameMap Value) : Bool :=
  a.entries.map (·.1) == b.entries.map (·.1) &&
    Value.sameAll (a.entries.map (·.2)) (b.entries.map (·.2))

/-- **Objects compared by their fields**: the equality of bags, and one of those that a set of entities may have. -/
def Obj.same : Obj → Obj → Bool
  | .entity a, .entity b => sameFields a.fields b.fields
  | .bag a, .bag b => a.same b
  | .bagList a, .bagList b =>
    a.rows.length == b.rows.length && (a.rows.zip b.rows).all fun p => p.1.same p.2
  | _, _ => false

namespace Entity

variable {O : Type}

def setField (e : Entity O) (field : String) (v : Value) : Entity O := { e with fields := e.fields.insert field v }

def record (e : Entity O) (label : String) (args : List (Arg O)) : Entity O :=
  { e with journal := e.journal ++ [⟨label, args⟩] }

/-- The entity with a single nested object. -/
def setOne (e : Entity O) (slot : Nat) (o : O) : Entity O :=
  { e with one := fun k => if k = slot then some o else e.one k }

def setMany (e : Entity O) (slot : Nat) (os : List O) : Entity O :=
  { e with many := fun k => if k = slot then os else e.many k }

end Entity

end QueryRows
