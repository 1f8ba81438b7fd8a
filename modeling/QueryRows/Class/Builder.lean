import QueryRows.Class
import QueryRows.Text.CamelCase
/-!
# Builder — classes put together member by member

A class of entities starts with a name and the number of its type; the values that a fresh entity has, setters, getters,
other methods and nested properties are then added to it, each member behind those that are already there.  Setters and getters go by the
property's name in capitalised words after `set` or `get`.
-/
namespace QueryRows

namespace Class

def ofEntity (name : String) (tag : Nat) : Class :=
  ⟨name, .entity tag, (ObjectType.entity tag).fresh, type_fresh _, [], [], []⟩

/-- An object with a value in a field, if it is an entity. -/
def startWith (field : String) (v : Value) : Obj → Obj
  | .entity e => .entity (e.setField field v)
  | o => o

theorem type_startWith (field : String) (v : Value) (o : Obj) : (startWith field v o).type = o.type := by
  cases o <;> rfl

/-- **Gives fresh objects a value** in a field. -/
def withInitial (c : Class) (field : String) (v : Value) : Class :=
  { c with initial := startWith field v c.initial, type_initial := (type_startWith field v _).trans c.type_initial }

/-- What a method of entities does to an object; an entity keeps its number. -/
def onEntity (name : String) (run : Entity Obj → List (Arg Obj) → Except InvokeError (Entity Obj)) (o : Obj)
    (args : List (Arg Obj)) : Except InvokeError Obj :=
  match o with
  | .entity e => (run e args).map fun e' => .entity { e' with tag := e.tag }
  | _ => .error (.targetMismatch name)

theorem type_onEntity {name : String} {run : Entity Obj → List (Arg Obj) → Except InvokeError (Entity Obj)} {o : Obj}
    {args : List (Arg Obj)} {o' : Obj} (h : onEntity name run o args = .ok o') : o'.type = o.type := by
  cases o with
  | entity e =>
    unfold onEntity at h
    cases hr : run e args with
    | error err => simp [hr, Except.map] at h
    | ok e' =>
      simp only [hr, Except.map, Except.ok.injEq] at h
      rw [← h]
      rfl
  | bag b => cases h
  | bagList l => cases h

def withMethod (c : Class) (name : String) (params : List Kind)
    (run : Entity Obj → List (Arg Obj) → Except InvokeError (Entity Obj)) : Class :=
  { c with methods := c.methods ++ [⟨name, params, c.type, onEntity name run, type_onEntity⟩] }

def setterName (property : String) : String := "set" ++ Text.upperCamel property

def getterName (property : String) : String := "get" ++ Text.upperCamel property

/-- What a setter does: its one argument is taken in as the field's type and stored. -/
def storeArgument (method : String) (type : FieldType) (field : String) (e : Entity Obj) :
    List (Arg Obj) → Except InvokeError (Entity Obj)
  | .value v :: _ =>
    match type.take v with
    | .ok v' => .ok (e.setField field v')
    | .error err => .error (.value err)
  | _ => .error (.expectedObject method 0)

/-- **Adds the setter of a property**, which stores into a field. -/
def withSetter (c : Class) (property : String) (kind : Kind) (type : FieldType) (field : String) : Class :=
  c.withMethod (setterName property) [kind] (storeArgument (setterName property) type field)

/-- **Adds the getter of a property**, which reads a field, or a default when the field has no value. -/
def withGetter (c : Class) (property : String) (kind : Kind) (nullable : Bool) (field : String)
    (default : Value) : Class :=
  let get : Obj → Value := fun o =>
    match o with
    | .entity e => (e.fields.get? field).getD default
    | _ => default
  { c with getters := c.getters ++ [⟨getterName property, kind, nullable, c.type, get⟩] }

/-- The arguments as a journal keeps them: values are taken in as the types at their positions, objects stay as
they are. -/
def takeArguments : List FieldType → List (Arg Obj) → Except InvokeError (List (Arg Obj))
  | _, [] => .ok []
  | types, .object o :: args => (takeArguments types.tail args).map (.object o :: ·)
  | types, .value v :: args =>
    match (types.headD .value).take v with
    | .ok v' => (takeArguments types.tail args).map (.value v' :: ·)
    | .error err => .error (.value err)

/-- **Adds a method that writes its calls into the journal** under a label. -/
def withRecorder (c : Class) (name : String) (params : List Kind) (types : List FieldType) (label : String) :
    Class :=
  c.withMethod name params fun e args => (takeArguments types args).map (e.record label)

def withRefusal (c : Class) (name : String) (params : List Kind) (text : String) : Class :=
  c.withMethod name params fun _ _ => .error (.refused text)

/-- **Adds a method that takes one object** of a class and writes it into the journal; only objects of the type
`element` are taken. -/
def withAdder (c : Class) (name : String) (row : Class) (element : ObjectType) : Class :=
  c.withMethod name [.object row.name] fun e args =>
    match args with
    | .object o :: _ =>
      if o.type = element then .ok (e.record name [.object o]) else .error (.expectedObject name 0)
    | _ => .error (.expectedObject name 0)

def withNested (c : Class) (property : String) (type : Class) (element : ObjectType) (slot : Slot) : Class :=
  { c with nested := c.nested ++ [⟨property, type, c.type, element, slot⟩] }

end Class

end QueryRows
