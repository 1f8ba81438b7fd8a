import QueryRows.Proofs.FieldMemory
/-!
# RowTypes — filling a row never changes its type

Whatever operations and setters do to a row and to its nested objects, it stays an object of its class
(`type_fillRowAnew`).
-/
namespace QueryRows

namespace Nested

theorem type_of_entity? {C : Type} {n : Nested C} {o : Obj} {e : Entity Obj} (h : n.entity? o = some e) :
    o.type = .entity e.tag := by
  rw [(of_entity?_eq_some h).1, Obj.type]

theorem type_ensure {n : Nested Class} {o o' : Obj} {hasValue : Bool} (h : n.ensure o hasValue = .ok o') :
    o'.type = o.type := by
  unfold Nested.ensure at h
  split at h
  · split at h
    · cases h
      rfl
    · split at h
      · rename_i e he
        split at h
        · cases h
          exact (type_of_entity? he).symm
        · cases h
      · cases h
  · split at h
    · cases h
    · rename_i e he
      split at h
      · cases h
        rfl
      · split at h
        · cases h
          exact (type_of_entity? he).symm
        · cases h

theorem type_setCurrent {C : Type} (n : Nested C) (o x : Obj) : (n.setCurrent o x).type = o.type := by
  unfold Nested.setCurrent
  split
  · rfl
  · rename_i e he
    rw [type_of_entity? he]
    split <;> rfl

end Nested

namespace FillPlan

theorem type_invokeRow {p : FillPlan} {row row' : Obj} {field : String} {v : Value}
    (h : p.invokeRow row field v = .ok row') : row'.type = row.type := Method.type_invoke h

theorem type_invokeField (p : FillPlan) (row : Obj) (v : Value) : (p.invokeField row v).1.type = row.type := by
  unfold FillPlan.invokeField
  split
  · split
    · rename_i row' h
      exact Method.type_invoke h
    · rfl
  · split
    · rfl
    · rename_i row' hrow'
      have htype := Nested.type_ensure hrow'
      split
      · exact htype
      · split
        · exact (Nested.type_setCurrent _ row' _).trans htype
        · exact htype

end FillPlan

namespace Mapping

variable {m : Mapping} {rowNo : Nat}

theorem type_fillFieldAnew {row row' : Obj} {field : String} {v : Value}
    (h : m.fillFieldAnew rowNo row field v = .ok row') : row'.type = row.type := by
  unfold fillFieldAnew at h
  split at h
  · rename_i plan _
    cases hi : plan.invokeRow row field v with
    | error e =>
      rw [hi] at h
      cases h
    | ok r =>
      rw [hi] at h
      cases h
      exact FillPlan.type_invokeRow hi
  · split at h
    · cases h
      rfl
    · rename_i plan _
      split at h
      · cases h
      · rename_i v' _
        have htype := plan.type_invokeField row v'
        split at h
        · rename_i r hr
          cases h
          rw [hr] at htype
          exact htype
        · cases h

theorem type_fillFieldsAnew : ∀ {fields : List (String × Value)} {row row' : Obj},
    m.fillFieldsAnew rowNo row fields = .ok row' → row'.type = row.type
  | [], _, _, h => by
    cases h
    rfl
  | (field, v) :: fields, row, row', h => by
    rw [fillFieldsAnew] at h
    split at h
    · rename_i r hr
      exact (type_fillFieldsAnew h).trans (type_fillFieldAnew hr)
    · cases h

/-- **The row of a record is of the row class's type.** -/
theorem type_fillRowAnew {r : Record} {row : Obj} (h : m.fillRowAnew rowNo r = .ok row) : row.type = m.row.type :=
  (type_fillFieldsAnew h).trans m.row.type_initial

end Mapping

end QueryRows
