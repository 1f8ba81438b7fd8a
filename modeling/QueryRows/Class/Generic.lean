import QueryRows.Class
/-!
# Generic — the classes of bags

The class of bags has one method, which puts a value under a name; the class of bag lists has one, which adds a
bag.  They map records for which no other class is described.
-/
namespace QueryRows

/-- Puts the second argument under the name that the first one is. -/
def putIntoBag (o : Obj) (args : List (Arg Obj)) : Except InvokeError Obj :=
  match o, args with
  | .bag b, .value (.text name) :: rest =>
    let v := match rest with
      | .value v :: _ => v
      | _ => .null
    .ok (.bag (b.put name v))
  | _, _ => .error (.refused "put expects a text name")

def addToBagList (o : Obj) (args : List (Arg Obj)) : Except InvokeError Obj :=
  match o, args with
  | .bagList l, .object (.bag b) :: _ => .ok (.bagList (l.add b))
  | _, _ => .error (.expectedObject "add" 0)

theorem type_putIntoBag {o o' : Obj} {args : List (Arg Obj)} (h : putIntoBag o args = .ok o') : o'.type = o.type := by
  unfold putIntoBag at h
  split at h
  · cases h
    rfl
  · cases h

theorem type_addToBagList {o o' : Obj} {args : List (Arg Obj)} (h : addToBagList o args = .ok o') :
    o'.type = o.type := by
  unfold addToBagList at h
  split at h
  · cases h
    rfl
  · cases h

/-- **The class of bags.** -/
def bagClass : Class :=
  ⟨"MapRow", .bag, .bag .empty, rfl, [⟨"put", [.text, .any], .bag, putIntoBag, type_putIntoBag⟩], [], []⟩

/-- **The class of bag lists.** -/
def bagListClass : Class :=
  ⟨"RowList", .bagList, .bagList .empty, rfl,
    [⟨"add", [.object bagClass.name], .bagList, addToBagList, type_addToBagList⟩], [], []⟩

end QueryRows
