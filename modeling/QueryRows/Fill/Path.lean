import QueryRows.Class
import QueryRows.Text.Blank
import QueryRows.Text.Split
/-!
# Path — a property reached through nested objects

A path names single nested properties of a class, one inside the other, and at its end a getter.
-/
namespace QueryRows

/-- A path resolved on a class. -/
structure FieldPath where
  path : String
  hops : List (Nested Class)
  getter : Getter

/-- The segments of a path, without the blanks around them. -/
def pathSegments (path : String) : List String :=
  (Text.split '.' path.toList).map fun s => String.ofList (Text.trim s)

/-- Resolves segments: all but the last one name single nested properties, the last one a getter. -/
def resolveSegments (c : Class) : List String → Option (List (Nested Class) × Getter)
  | [] => none
  | [property] => (c.gettersFor property).head?.map fun g => ([], g)
  | property :: rest =>
    match c.nested? property with
    | none => none
    | some n =>
      if n.isCollection then none
      else (resolveSegments n.type rest).map fun r => (n :: r.1, r.2)

/-- **Resolves a path on a class.** -/
def FieldPath.resolve? (c : Class) (path : String) : Option FieldPath :=
  (resolveSegments c (pathSegments path)).map fun r => ⟨path, r.1, r.2⟩

def FieldPath.kind (p : FieldPath) : Kind := p.getter.kind

/-- Reads a getter through nested objects; where one of them is absent the value is null. -/
def readThrough (g : Getter) : List (Nested Class) → Obj → Except InvokeError Value
  | [], o => g.read o
  | n :: hops, o =>
    match n.read? o with
    | some next => readThrough g hops next
    | none => .ok .null

/-- **Reads a path from an object.** -/
def FieldPath.read (p : FieldPath) (o : Obj) : Except InvokeError Value := readThrough p.getter p.hops o

end QueryRows
