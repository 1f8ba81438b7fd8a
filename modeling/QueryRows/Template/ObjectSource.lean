import QueryRows.Template.Lookup
import QueryRows.Class
import QueryRows.Text.Split
/-!
# ObjectSource — placeholders read from an object

A token names a property; a token with dots first walks through single nested objects.
-/
namespace QueryRows

/-- **Looks the segments of a token up**: all but the last one name single nested properties, the last one a
getter.  Where a nested object is absent the answer is a null that stands for no value. -/
def lookupProperty (c : Class) (o : Obj) : List String → Lookup
  | [] => .missing
  | [property] =>
    match (c.gettersFor property).head? with
    | none => .missing
    | some g =>
      match g.read o with
      | .ok v => .found v g.nullable
      | .error _ => .missing
  | property :: rest =>
    match c.nested? property with
    | none => .missing
    | some n =>
      if n.isCollection then .missing
      else match n.read? o with
        | some next => lookupProperty n.type next rest
        | none => .found .null true

def objectSource (c : Class) (o : Obj) : Source := fun token =>
  lookupProperty c o ((Text.split '.' token.toList).map String.ofList)

end QueryRows
