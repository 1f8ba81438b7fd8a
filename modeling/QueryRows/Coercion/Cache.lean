import QueryRows.Coercion
/-!
# Cache — coercion rules remembered by field

The first value of a field resolves the field's rule, which then stays.  A later value of the same family is
converted by it; a value of another family is converted by a rule of its own that is not remembered, and null
touches nothing.
-/
namespace QueryRows

/-- The rules resolved so far, by field, and how many resolutions there were. -/
structure CoercionCache where
  rules : List (String × CoercionRule)
  resolutions : Nat

namespace CoercionCache

def empty : CoercionCache := ⟨[], 0⟩

def size (c : CoercionCache) : Nat := c.rules.length

/-- **The rule of a field**, resolved now if the field has none. -/
def resolve (c : CoercionCache) (field : String) (source : Family) (target : Kind) :
    CoercionRule × CoercionCache :=
  match c.rules.lookup field with
  | some rule => (rule, c)
  | none =>
    let rule := CoercionRule.resolve source target
    (rule, ⟨c.rules ++ [(field, rule)], c.resolutions + 1⟩)

/-- **Converts a value of a field**, and the cache afterwards. -/
def coerce (c : CoercionCache) (field : String) (v : Value) (target : Kind) :
    Except CoercionError Value × CoercionCache :=
  if v.isNull then (.ok .null, c)
  else
    let source := Family.of v
    let (rule, c') := c.resolve field source target
    if rule.source = source then (rule.apply v, c')
    else ((CoercionRule.resolve source target).apply v, c')

end CoercionCache

end QueryRows
