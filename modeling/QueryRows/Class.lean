import QueryRows.Object
import QueryRows.Kind
import QueryRows.FieldType
import QueryRows.Coercion
/-!
# Class — the descriptor of a type of objects

A class lists the methods, getters and nested properties of a type.  Members are found by name up to case and
underscores (`memberKey`), methods also by their number of parameters, and every member checks that it is used on
an object of its own class's type.
-/
namespace QueryRows

/-- Why an operation did not go through. -/
inductive InvokeError where
  /-- the object, or an element of one of its slots, is of another type -/
  | targetMismatch (method : String)
  | arity (method : String) (expected found : Nat)
  | expectedObject (method : String) (index : Nat)
  | value (e : ValueError)
  | coercion (e : CoercionError)
  | refused (text : String)
deriving DecidableEq

def InvokeError.message : InvokeError → String
  | .targetMismatch m => "'" ++ m ++ "' expected an instance of another class"
  | .arity m expected found =>
    "'" ++ m ++ "' received " ++ toString found ++ " argument(s) but takes " ++ toString expected
  | .expectedObject m index => "'" ++ m ++ "' argument " ++ toString index ++ " must be an object"
  | .value e => e.message
  | .coercion e => e.message
  | .refused text => text

/-- **The key that member names are compared by**: no underscores, and every letter in lower case. -/
def memberKey (name : String) : List Char := (name.toList.filter (· ≠ '_')).flatMap Text.lowerChar

/-- Two member names are the same up to case and underscores. -/
def sameMember (a b : String) : Bool := memberKey a == memberKey b

/-- An operation of a class: what it is called, the kinds it declares for its parameters, the type it works on and
what it does, which never changes the type of an object. -/
structure Method where
  name : String
  params : List Kind
  owner : ObjectType
  run : Obj → List (Arg Obj) → Except InvokeError Obj
  type_run : ∀ {o : Obj} {args : List (Arg Obj)} {o' : Obj}, run o args = .ok o' → o'.type = o.type

def Method.arity (m : Method) : Nat := m.params.length

/-- **Calls a method**: the number of arguments is checked first, then the type of the object. -/
def Method.invoke (m : Method) (o : Obj) (args : List (Arg Obj)) : Except InvokeError Obj :=
  if args.length ≠ m.arity then .error (.arity m.name m.arity args.length)
  else if o.type ≠ m.owner then .error (.targetMismatch m.name)
  else m.run o args

theorem Method.type_invoke {m : Method} {o o' : Obj} {args : List (Arg Obj)} (h : m.invoke o args = .ok o') :
    o'.type = o.type := by
  unfold Method.invoke at h
  split at h
  · cases h
  · split at h
    · cases h
    · exact m.type_run h

/-- A property that can be read. -/
structure Getter where
  name : String
  kind : Kind
  nullable : Bool
  owner : ObjectType
  get : Obj → Value

/-- Reads a property of an object of the getter's type. -/
def Getter.read (g : Getter) (o : Obj) : Except InvokeError Value :=
  if o.type = g.owner then .ok (g.get o) else .error (.targetMismatch g.name)

/-- How a collection takes in elements: a list keeps all of them and is filled at its last one; a set compares them by
an equality of its own, leaves out those that an element it has is the same as, and is filled at its first one. -/
inductive CollectionKind where
  | list
  | set (same : Obj → Obj → Bool)

/-- Where an entity keeps a nested property. -/
inductive Slot where
  | single (index : Nat)
  | collection (kind : CollectionKind) (index : Nat)

/-- A property whose value is an object of a class, or a collection of such objects. -/
structure Nested (C : Type) where
  property : String
  type : C
  /-- the type of the objects that have the property -/
  owner : ObjectType
  /-- the type of the objects that the slot takes -/
  element : ObjectType
  slot : Slot

/-- The descriptor of a type of objects: what a fresh one is, and the members. -/
structure Class where
  name : String
  type : ObjectType
  initial : Obj
  type_initial : initial.type = type
  methods : List Method
  getters : List Getter
  nested : List (Nested Class)

namespace Class

def instantiate (c : Class) : Obj := c.initial

def isInstance (c : Class) (o : Obj) : Bool := o.type == c.type

/-- **The methods with a name and a number of parameters**, in the order of their declaration. -/
def methodsNamed (c : Class) (name : String) (arity : Nat) : List Method :=
  c.methods.filter fun m => m.arity == arity && sameMember m.name name

/-- The getters of a property, in the order of their declaration. -/
def gettersFor (c : Class) (property : String) : List Getter :=
  c.getters.filter fun g => sameMember g.name ("get" ++ property)

def nested? (c : Class) (property : String) : Option (Nested Class) :=
  c.nested.find? fun n => sameMember n.property property

end Class

namespace Nested

def isCollection {C : Type} (n : Nested C) : Bool :=
  match n.slot with
  | .single _ => false
  | .collection _ _ => true

def entity? {C : Type} (n : Nested C) (o : Obj) : Option (Entity Obj) :=
  match o with
  | .entity e => if o.type = n.owner then some e else none
  | _ => none

theorem entity?_of_owner {C : Type} {n : Nested C} {e : Entity Obj} (h : n.owner = .entity e.tag) :
    n.entity? (.entity e) = some e := if_pos h.symm

theorem of_entity?_eq_some {C : Type} {n : Nested C} {o : Obj} {e : Entity Obj} (h : n.entity? o = some e) :
    o = .entity e ∧ n.owner = .entity e.tag := by
  unfold entity? at h
  split at h
  · split at h
    · rename_i e' howner
      cases h
      exact ⟨rfl, howner.symm⟩
    · cases h
  · cases h

/-- **The nested object of a single property**, if there is one. -/
def read? {C : Type} (n : Nested C) (o : Obj) : Option Obj :=
  match n.slot with
  | .single k => (n.entity? o).bind fun e => (e.one k).filter fun x => x.type = n.element
  | .collection _ _ => none

def elements? {C : Type} (n : Nested C) (o : Obj) : Option (List Obj) :=
  match n.slot with
  | .single _ => none
  | .collection _ k => (n.entity? o).map fun e => e.many k

/-- **Makes sure that there is an object to fill**: a missing single object is created, an empty collection gets
its first element when there is something to put into it. -/
def ensure (n : Nested Class) (o : Obj) (hasValue : Bool) : Except InvokeError Obj :=
  match n.slot with
  | .single k =>
    if (n.read? o).isSome then .ok o
    else match n.entity? o with
      | some e =>
        if n.type.type = n.element then .ok (.entity (e.setOne k n.type.instantiate))
        else .error (.targetMismatch "install")
      | none => .error (.targetMismatch "install")
  | .collection _ k =>
    match n.entity? o with
    | none => .error (.targetMismatch n.property)
    | some e =>
      if !(e.many k).isEmpty || !hasValue then .ok o
      else if n.type.type = n.element then .ok (.entity (e.setMany k [n.type.instantiate]))
      else .error (.targetMismatch "push")

/-- **The object that is being filled**: a single property's object, a list's last element, a set's first. -/
def current? {C : Type} (n : Nested C) (o : Obj) : Option Obj :=
  match n.slot with
  | .single _ => n.read? o
  | .collection .list _ => (n.elements? o).bind fun xs => xs.getLast?
  | .collection (.set _) _ => (n.elements? o).bind fun xs => xs.head?

/-- Another object in the place of the one being filled. -/
def setCurrent {C : Type} (n : Nested C) (o x : Obj) : Obj :=
  match n.entity? o with
  | none => o
  | some e =>
    match n.slot with
    | .single k => .entity (e.setOne k x)
    | .collection .list k => .entity (e.setMany k ((e.many k).dropLast ++ [x]))
    | .collection (.set _) k => .entity (e.setMany k (x :: (e.many k).tail))

/-- **Takes all elements out of a collection**: the elements and the object without them. -/
def takeAll {C : Type} (n : Nested C) (o : Obj) : List Obj × Obj :=
  match n.slot, n.entity? o with
  | .collection _ k, some e => (e.many k, .entity (e.setMany k []))
  | _, _ => ([], o)

/-- An element added to a collection, unless it is a set that has the same one. -/
def absorbOne (kind : CollectionKind) (xs : List Obj) (x : Obj) : List Obj :=
  match kind with
  | .list => xs ++ [x]
  | .set same => if xs.any (same · x) then xs else xs ++ [x]

/-- Elements added one after the other, up to the first one of another type, and whether all were added. -/
def absorbInto (kind : CollectionKind) (element : ObjectType) : List Obj → List Obj → List Obj × Bool
  | xs, [] => (xs, true)
  | xs, y :: ys => if y.type = element then absorbInto kind element (absorbOne kind xs y) ys else (xs, false)

/-- **Adds elements to a collection**: the object afterwards, and the failure if there is one. -/
def absorb {C : Type} (n : Nested C) (o : Obj) (ys : List Obj) : Obj × Except InvokeError Unit :=
  match n.slot with
  | .single _ => (o, .ok ())
  | .collection kind k =>
    match n.entity? o with
    | none => (o, .error (.targetMismatch "absorb"))
    | some e =>
      let (xs, all) := absorbInto kind n.element (e.many k) ys
      (.entity (e.setMany k xs), if all then .ok () else .error (.targetMismatch "absorb"))

end Nested

def Class.collections (c : Class) : List (Nested Class) := c.nested.filter fun n => n.isCollection

end QueryRows
