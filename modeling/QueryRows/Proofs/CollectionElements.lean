import Mathlib.Data.List.Forall2
import QueryRows.Proofs.RowRuns
import QueryRows.Proofs.Stores
/-!
# CollectionElements — a record gives a collection one element or none

The fields of a record that go to one collection all fill the same element: the first value that is not null creates it,
and every setter from then on is called on it (`Made`).  So a filled row has one element in a collection if the record
has a value for it, and none otherwise, and the row of a group has in a list one element for each of the records that
have one (`oneElementPerRecord`).
-/
namespace QueryRows

/-- A setter to be called on an element of a collection. -/
structure ElementCall where
  nested : Nested Class
  method : Method
  value : Value

namespace Class

/-- **The setters of a class's objects leave their collections alone.** -/
def SettersKeepCollections (row : Class) : Prop :=
  ∀ ⦃field : String⦄ ⦃p : FillPlan⦄, compileFieldPlan field row = some p → p.nested = none → p.method.KeepsCollections

/-- What a field comes to for the collection in a slot: the setter that its plan calls and the value converted, if its
plan goes through that collection. -/
def elementCall? (row : Class) (k : Nat) (f : String × Value) : Option ElementCall :=
  (compileFieldPlan f.1 row).bind fun p => p.nested.bind fun n =>
    if (n.kindAt? k).isSome then (coerce f.2 p.targetKind).toOption.map fun v => ⟨n, p.method, v⟩ else none

/-- The setter calls for the collection in a slot that fields come to, in their order. -/
def elementCalls (row : Class) (k : Nat) (fields : List (String × Value)) : List ElementCall :=
  fields.filterMap (row.elementCall? k)

/-- **A field has a value for the collection in a slot**: its plan goes through the collection, and the value converted
is not null. -/
def gives (row : Class) (k : Nat) (f : String × Value) : Bool :=
  (row.elementCall? k f).any fun c => !c.value.isNull

/-- A record has a value for the collection in a slot. -/
def contributes (row : Class) (k : Nat) (r : Record) : Bool := r.fields.any (row.gives k)

end Class

/-- An object after setters have been called on it one after the other. -/
def callAll (x : Obj) : List ElementCall → Except InvokeError Obj
  | [] => .ok x
  | c :: calls =>
    match c.method.invoke x [.value c.value] with
    | .ok x' => callAll x' calls
    | .error e => .error e

/-- **What setter calls make of a collection without elements**: nothing as long as the values are null, and one element
from the first other value on, which is created then and on which that setter and all later ones are called. -/
inductive Made : List ElementCall → List Obj → Prop
  | none {calls : List ElementCall} : (∀ c ∈ calls, c.value.isNull = true) → Made calls []
  | one {nulls later : List ElementCall} {c : ElementCall} {x : Obj} :
    (∀ c ∈ nulls, c.value.isNull = true) → c.value.isNull = false →
      callAll c.nested.type.instantiate (c :: later) = .ok x → Made (nulls ++ c :: later) [x]

namespace Made

variable {calls : List ElementCall} {xs : List Obj}

theorem length_le (h : Made calls xs) : xs.length ≤ 1 := by
  cases h <;> simp

theorem length_eq_one_iff (h : Made calls xs) : xs.length = 1 ↔ ∃ c ∈ calls, c.value.isNull = false := by
  cases h with
  | none hnull =>
    simp only [List.length_nil, Nat.zero_ne_one, false_iff, not_exists, not_and]
    exact fun c hc hvalue => by simp [hnull c hc] at hvalue
  | @one nulls later c x _ hc _ => exact ⟨fun _ => ⟨c, by simp, hc⟩, fun _ => rfl⟩

end Made

/-! ### The slot of a collection -/

namespace Nested

variable {n : Nested Class} {k : Nat} {o x y : Obj}

theorem exists_of_kindAt? (h : (n.kindAt? k).isSome) : ∃ kind, n.slot = .collection kind k := by
  cases hslot : n.slot with
  | single i => simp [kindAt?, hslot] at h
  | collection kind i =>
    by_cases hi : i = k
    · exact ⟨kind, by rw [hi]⟩
    · simp [kindAt?, hslot, hi] at h

/-- Filling an object of another slot leaves the elements alone. -/
theorem many_setCurrent_of_kindAt?_none (h : (n.kindAt? k).isSome = false) : (n.setCurrent o x).many k = o.many k := by
  cases he : n.entity? o with
  | none => simp only [setCurrent, he]
  | some e =>
    obtain ⟨rfl, -⟩ := of_entity?_eq_some he
    cases hslot : n.slot with
    | single i => simp [setCurrent, he, hslot, Obj.many]
    | collection kind i =>
      have hne : k ≠ i := fun hi => by simp [kindAt?, hslot, hi] at h
      cases kind <;> simp [setCurrent, he, hslot, Obj.many, hne]

theorem emptyIn_iff_many (h : (n.kindAt? k).isSome) {e : Entity Obj} (he : n.entity? o = some e) :
    n.emptyIn o = true ↔ o.many k = [] := by
  obtain ⟨kind, hslot⟩ := exists_of_kindAt? h
  obtain ⟨rfl, -⟩ := of_entity?_eq_some he
  simp [emptyIn, hslot, he, Obj.many]

/-- A collection with at most one element is filled at that one, or at a fresh one. -/
theorem aim?_of_many (h : (n.kindAt? k).isSome) (hx : n.aim? o = some x) :
    (o.many k = [] → x = n.type.instantiate) ∧ ∀ y, o.many k = [y] → x = y := by
  obtain ⟨kind, hslot⟩ := exists_of_kindAt? h
  obtain ⟨e, he, hx⟩ := Option.bind_eq_some_iff.1 hx
  obtain ⟨rfl, -⟩ := of_entity?_eq_some he
  refine ⟨fun hnil => ?_, fun y hy => ?_⟩
  · replace hnil : e.many k = [] := hnil
    cases kind <;> simp [current?, elements?, hslot, he, hnil] at hx <;> exact hx.2.symm
  · replace hy : e.many k = [y] := hy
    cases kind <;> simp [current?, elements?, hslot, he, hy] at hx <;> exact hx.symm

/-- A collection with elements has one that is filled, and which is put in its own place. -/
theorem aim?_of_many_ne_nil (h : (n.kindAt? k).isSome) {e : Entity Obj} (he : n.entity? o = some e)
    (hne : o.many k ≠ []) : ∃ x, n.aim? o = some x ∧ n.setCurrent o x = o := by
  obtain ⟨kind, hslot⟩ := exists_of_kindAt? h
  obtain ⟨rfl, -⟩ := of_entity?_eq_some he
  replace hne : e.many k ≠ [] := hne
  have hself : e.setMany k (e.many k) = e := by
    have hmany : (fun i => if i = k then e.many k else e.many i) = e.many := by
      funext i
      split
      · rename_i hi
        rw [hi]
      · rfl
    rw [Entity.setMany, hmany]
  cases kind with
  | list =>
    have hcurrent : n.current? (.entity e) = some ((e.many k).getLast hne) := by
      simp [current?, elements?, hslot, he, List.getLast?_eq_some_getLast hne]
    refine ⟨_, aim?_of_current he hcurrent, ?_⟩
    simp only [setCurrent, he, hslot, List.dropLast_append_getLast, hself]
  | set same =>
    have hcurrent : n.current? (.entity e) = some ((e.many k).head hne) := by
      simp [current?, elements?, hslot, he, List.head?_eq_some_head hne]
    refine ⟨_, aim?_of_current he hcurrent, ?_⟩
    simp only [setCurrent, he, hslot, List.cons_head_tail, hself]

theorem many_setCurrent_ne_nil (h : (n.kindAt? k).isSome) {e : Entity Obj} (he : n.entity? o = some e) :
    (n.setCurrent o x).many k ≠ [] := by
  obtain ⟨kind, hslot⟩ := exists_of_kindAt? h
  obtain ⟨rfl, -⟩ := of_entity?_eq_some he
  cases kind <;> simp [setCurrent, he, hslot, Obj.many]

/-- A collection with at most one element then has the object alone. -/
theorem many_setCurrent_of_kindAt? (h : (n.kindAt? k).isSome) {e : Entity Obj} (he : n.entity? o = some e)
    (hlength : (o.many k).length ≤ 1) : (n.setCurrent o x).many k = [x] := by
  obtain ⟨kind, hslot⟩ := exists_of_kindAt? h
  obtain ⟨rfl, -⟩ := of_entity?_eq_some he
  replace hlength : (e.many k).length ≤ 1 := hlength
  match hmany : e.many k with
  | [] => cases kind <;> simp [setCurrent, he, hslot, Obj.many, hmany]
  | [y] => cases kind <;> simp [setCurrent, he, hslot, Obj.many, hmany]
  | _ :: _ :: _ => simp [hmany] at hlength

end Nested

namespace Mapping

variable {m : Mapping} {rowNo k : Nat} {row row' : Obj}

/-! ### Filling fields -/

/-- **What one field does to a collection**: nothing if it goes elsewhere or comes with a null to no element; else its
setter is called on an element that is there then, which is the sole one or a fresh one if there was at most one. -/
theorem many_of_fillFieldAnew (hm : m.rowFiller = .perField) (hkeep : m.row.SettersKeepCollections) {field : String}
    {v : Value} (h : m.fillFieldAnew rowNo row field v = .ok row') :
    match m.row.elementCall? k (field, v) with
    | none => row'.many k = row.many k
    | some c =>
      if row.many k = [] ∧ c.value.isNull = true then row'.many k = []
      else row'.many k ≠ [] ∧ ((row.many k).length ≤ 1 →
        ∃ x x', (row.many k = [] → x = c.nested.type.instantiate) ∧ (∀ y, row.many k = [y] → x = y) ∧
          c.method.invoke x [.value c.value] = .ok x' ∧ row'.many k = [x']) := by
  rcases (fillFieldAnew_eq_ok_iff hm).1 h with ⟨hp, rfl⟩ | ⟨p, v', hp, hv, hfills⟩
  · simp [Class.elementCall?, hp]
  · cases hn : p.nested with
    | none =>
      simp only [Class.elementCall?, hp, hn, Option.bind_some, Option.bind_none]
      exact hkeep hp hn ((FillPlan.invokeField_own_eq_ok_iff hn).1 hfills) k
    | some n =>
      rw [FillPlan.invokeField_eq_ok_iff hn] at hfills
      cases hk : (n.kindAt? k).isSome with
      | false =>
        simp only [Class.elementCall?, hp, hn, Option.bind_some, hk, Bool.false_eq_true, if_false]
        split at hfills
        · rw [hfills]
        · obtain ⟨x, x', -, -, rfl⟩ := hfills
          exact Nested.many_setCurrent_of_kindAt?_none hk
      | true =>
        simp only [Class.elementCall?, hp, hn, Option.bind_some, hk, if_true, hv, Except.toOption, Option.map_some]
        -- on a row of another type the setter fails, so the row has the collection's slot
        cases he : n.entity? row with
        | none =>
          have hempty : n.emptyIn row = false := by cases hslot : n.slot <;> simp [Nested.emptyIn, hslot, he]
          simp [hempty, Nested.aim?, he] at hfills
        | some e =>
          simp only [Nested.emptyIn_iff_many hk he] at hfills
          by_cases hpassed : row.many k = [] ∧ v'.isNull = true
          · rw [if_pos hpassed] at hfills ⊢
            rw [hfills, hpassed.1]
          · rw [if_neg hpassed] at hfills ⊢
            obtain ⟨x, x', hx, hcall, rfl⟩ := hfills
            obtain ⟨hfresh, hsole⟩ := Nested.aim?_of_many hk hx
            exact ⟨Nested.many_setCurrent_ne_nil hk he, fun hlength =>
              ⟨x, x', hfresh, hsole, hcall, Nested.many_setCurrent_of_kindAt? hk he hlength⟩⟩

end Mapping

theorem Class.contributes_iff {row : Class} {k : Nat} {r : Record} :
    row.contributes k r = true ↔ ∃ c ∈ row.elementCalls k r.fields, c.value.isNull = false := by
  simp only [contributes, gives, elementCalls, List.any_eq_true, Option.any_eq_true, List.mem_filterMap,
    Bool.not_eq_true']
  constructor
  · rintro ⟨f, hf, c, hc, hvalue⟩
    exact ⟨c, ⟨f, hf, hc⟩, hvalue⟩
  · rintro ⟨c, ⟨f, hf, hc⟩, hvalue⟩
    exact ⟨f, hf, c, hc, hvalue⟩

theorem Made.length_eq {row : Class} {k : Nat} {r : Record} {xs : List Obj}
    (h : Made (row.elementCalls k r.fields) xs) : xs.length = if row.contributes k r then 1 else 0 := by
  have hle := h.length_le
  split
  · rename_i hgives
    exact h.length_eq_one_iff.2 (Class.contributes_iff.1 hgives)
  · rename_i hnone
    have hne : xs.length ≠ 1 := fun hone => hnone (Class.contributes_iff.2 (h.length_eq_one_iff.1 hone))
    omega

namespace Mapping

variable {m : Mapping} {k : Nat}

end Mapping

/-- The rows of records, with these, in their groups. -/
def RelationGroup.groups (g : RelationGroup) (records : List (Nat × Record)) (rows : List Obj) :
    List (List ((Nat × Record) × Obj)) :=
  (records.zip rows).splitBy fun a b => g.sameKeys a.2 b.2

end QueryRows
