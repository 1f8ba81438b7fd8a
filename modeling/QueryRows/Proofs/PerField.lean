import QueryRows.Proofs.FieldMemory
/-!
# PerField — fields that go to their own setters

Where every field has a setter of its own, filling it comes to three questions: whether it has a plan, whether its value
can be converted, and on which object the setter is called (`fillFieldAnew_eq_ok_iff`).  That object is the row, or the
one that a nested property holds or gets (`Nested.aim?`); a collection without elements gets none for a null, which is
passed over (`invokeField_eq_ok_iff`).
-/
namespace QueryRows

/-! ### Slots of an entity -/

namespace Entity

variable {O : Type} (e : Entity O)

@[simp] theorem tag_setOne (k : Nat) (x : O) : (e.setOne k x).tag = e.tag := rfl

@[simp] theorem tag_setMany (k : Nat) (xs : List O) : (e.setMany k xs).tag = e.tag := rfl

@[simp] theorem one_setOne (k i : Nat) (x : O) : (e.setOne k x).one i = if i = k then some x else e.one i := rfl

@[simp] theorem one_setMany (k i : Nat) (xs : List O) : (e.setMany k xs).one i = e.one i := rfl

@[simp] theorem many_setOne (k i : Nat) (x : O) : (e.setOne k x).many i = e.many i := rfl

@[simp] theorem many_setMany (k i : Nat) (xs : List O) :
    (e.setMany k xs).many i = if i = k then xs else e.many i := rfl

theorem setOne_setOne (k : Nat) (x y : O) : (e.setOne k x).setOne k y = e.setOne k y := by
  simp only [setOne, mk.injEq, true_and, and_true]
  funext i
  split <;> rfl

theorem setMany_setMany (k : Nat) (xs ys : List O) : (e.setMany k xs).setMany k ys = e.setMany k ys := by
  simp only [setMany, mk.injEq, true_and]
  funext i
  split <;> rfl

end Entity

/-! ### Nested objects -/

namespace Nested

/-- A collection of the object has no element. -/
def emptyIn {C : Type} (n : Nested C) (o : Obj) : Bool :=
  match n.slot with
  | .single _ => false
  | .collection _ k => (n.entity? o).any fun e => (e.many k).isEmpty

/-- **The object that a setter is called on**: the one that the property holds, or else a fresh one. -/
def aim? (n : Nested Class) (o : Obj) : Option Obj :=
  (n.entity? o).bind fun _ =>
    (n.current? o).or (if n.type.type = n.element then some n.type.instantiate else none)

section

variable {C : Type} {n : Nested C}

/-- An object put in the place of the one being filled is the one being filled. -/
theorem current?_setCurrent {o x : Obj} {e : Entity Obj} (he : n.entity? o = some e)
    (hx : n.isCollection = false → x.type = n.element) : n.current? (n.setCurrent o x) = some x := by
  obtain ⟨rfl, howner⟩ := of_entity?_eq_some he
  rw [setCurrent, he]
  cases hslot : n.slot with
  | single k =>
    have htype : x.type = n.element := hx (by rw [isCollection, hslot])
    have he' : n.entity? (.entity (e.setOne k x)) = some (e.setOne k x) := entity?_of_owner howner
    simp [current?, read?, hslot, he', htype]
  | collection kind k =>
    have he' (xs : List Obj) : n.entity? (.entity (e.setMany k xs)) = some (e.setMany k xs) := entity?_of_owner howner
    cases kind <;> simp [current?, elements?, hslot, he']

theorem setCurrent_setCurrent {o x : Obj} {e : Entity Obj} (he : n.entity? o = some e) (y : Obj) :
    n.setCurrent (n.setCurrent o x) y = n.setCurrent o y := by
  obtain ⟨rfl, howner⟩ := of_entity?_eq_some he
  cases hslot : n.slot with
  | single k =>
    have he' : n.entity? (.entity (e.setOne k x)) = some (e.setOne k x) := entity?_of_owner howner
    simp only [setCurrent, he, hslot, he', Entity.setOne_setOne]
  | collection kind k =>
    have he' (xs : List Obj) : n.entity? (.entity (e.setMany k xs)) = some (e.setMany k xs) := entity?_of_owner howner
    cases kind <;> simp [setCurrent, he, hslot, he', Entity.setMany_setMany]

theorem emptyIn_iff {o : Obj} {e : Entity Obj} (he : n.entity? o = some e) :
    n.emptyIn o = true ↔ n.isCollection = true ∧ n.current? o = none := by
  cases hslot : n.slot with
  | single k => simp [emptyIn, isCollection, hslot]
  | collection kind k => cases kind <;> simp [emptyIn, isCollection, current?, elements?, hslot, he]

end

variable {n : Nested Class} {o : Obj} {e : Entity Obj}

theorem aim?_of_current {x : Obj} (he : n.entity? o = some e) (hx : n.current? o = some x) : n.aim? o = some x := by
  rw [aim?, he, Option.bind_some, hx, Option.some_or]

theorem aim?_of_absent (he : n.entity? o = some e) (hx : n.current? o = none) :
    n.aim? o = if n.type.type = n.element then some n.type.instantiate else none := by
  rw [aim?, he, Option.bind_some, hx, Option.none_or]

theorem ensure_of_no_entity (he : n.entity? o = none) (hasValue : Bool) : ∃ err, n.ensure o hasValue = .error err := by
  cases hslot : n.slot <;> simp [ensure, hslot, he, read?]

theorem ensure_of_current {x : Obj} (he : n.entity? o = some e) (hx : n.current? o = some x) (hasValue : Bool) :
    n.ensure o hasValue = .ok o := by
  cases hslot : n.slot with
  | single k =>
    rw [current?, hslot] at hx
    simp only [ensure, hslot, show n.read? o = some x from hx, Option.isSome_some, if_true]
  | collection kind k =>
    have hne : e.many k ≠ [] := by
      intro hnil
      cases kind <;> simp [current?, elements?, hslot, he, hnil] at hx
    simp [ensure, hslot, he, hne]

/-- A null does not make a collection grow. -/
theorem ensure_of_emptyIn (he : n.entity? o = some e) (hempty : n.emptyIn o = true) : n.ensure o false = .ok o := by
  cases hslot : n.slot with
  | single k => simp [emptyIn, hslot] at hempty
  | collection kind k => simp [ensure, hslot, he]

/-- A missing object is created, if the slot takes objects of its class. -/
theorem ensure_of_absent (he : n.entity? o = some e) (hx : n.current? o = none) {hasValue : Bool}
    (hvalue : n.emptyIn o = true → hasValue = true) :
    (n.type.type = n.element → n.ensure o hasValue = .ok (n.setCurrent o n.type.instantiate)) ∧
      (n.type.type ≠ n.element → ∃ err, n.ensure o hasValue = .error err) := by
  cases hslot : n.slot with
  | single k =>
    rw [current?, hslot] at hx
    have hread : n.read? o = none := hx
    constructor <;> intro htype <;> simp [ensure, hslot, hread, he, htype, setCurrent]
  | collection kind k =>
    have hnil : e.many k = [] := by cases kind <;> simpa [current?, elements?, hslot, he] using hx
    have hhas : hasValue = true := hvalue ((emptyIn_iff he).2 ⟨by rw [isCollection, hslot], hx⟩)
    constructor <;> intro htype <;> cases kind <;> simp [ensure, hslot, hhas, hnil, he, htype, setCurrent]

end Nested

namespace FillPlan

variable {p : FillPlan} {n : Nested Class}

/-- A setter that is called on an object puts what it makes of the object in the object's place. -/
theorem invokeField_of_ensure (hn : p.nested = some n) {row row₁ row' x : Obj} {v : Value}
    (hensure : n.ensure row (!v.isNull) = .ok row₁) (hx : n.current? row₁ = some x)
    (hset : ∀ y, n.setCurrent row₁ y = n.setCurrent row y) :
    p.invokeField row v = (row', .ok ()) ↔
      ∃ x', p.method.invoke x [.value v] = .ok x' ∧ row' = n.setCurrent row x' := by
  simp only [invokeField, hn, hensure, hx, hset]
  cases p.method.invoke x [.value v] with
  | error err => simp
  | ok x' => simp [eq_comm]

/-- **What a setter of a nested object comes to**: a null for a collection without elements is passed over; else the
setter is called on one object, which then stands in its place. -/
theorem invokeField_eq_ok_iff (hn : p.nested = some n) {row row' : Obj} {v : Value} :
    p.invokeField row v = (row', .ok ()) ↔
      if n.emptyIn row = true ∧ v.isNull = true then row' = row
      else ∃ x x', n.aim? row = some x ∧ p.method.invoke x [.value v] = .ok x' ∧ row' = n.setCurrent row x' := by
  cases he : n.entity? row with
  | none =>
    obtain ⟨err, herror⟩ := Nested.ensure_of_no_entity he (!v.isNull)
    have hempty : n.emptyIn row = false := by cases hslot : n.slot <;> simp [Nested.emptyIn, hslot, he]
    simp [invokeField, hn, herror, Nested.aim?, he, hempty]
  | some e =>
    cases hx : n.current? row with
    | some x =>
      have hempty : ¬ n.emptyIn row = true := fun h => by simp [(Nested.emptyIn_iff he).1 h] at hx
      rw [if_neg fun h => hempty h.1, invokeField_of_ensure hn (Nested.ensure_of_current he hx _) hx fun _ => rfl,
        Nested.aim?_of_current he hx]
      simp
    | none =>
      by_cases hpassed : n.emptyIn row = true ∧ v.isNull = true
      · have hensure : n.ensure row false = .ok row := Nested.ensure_of_emptyIn he hpassed.1
        rw [if_pos hpassed]
        simp [invokeField, hn, hpassed.2, hensure, hx, eq_comm]
      · have hvalue : n.emptyIn row = true → (!v.isNull) = true := fun hempty => by
          cases hnull : v.isNull with
          | true => exact absurd ⟨hempty, hnull⟩ hpassed
          | false => rfl
        obtain ⟨hfresh, hrefused⟩ := Nested.ensure_of_absent he hx hvalue
        rw [if_neg hpassed]
        by_cases htype : n.type.type = n.element
        · have hcurrent : n.current? (n.setCurrent row n.type.instantiate) = some n.type.instantiate :=
            Nested.current?_setCurrent he fun _ => n.type.type_initial.trans htype
          rw [invokeField_of_ensure hn (hfresh htype) hcurrent (Nested.setCurrent_setCurrent he),
            Nested.aim?_of_absent he hx, if_pos htype]
          simp
        · obtain ⟨err, herror⟩ := hrefused htype
          simp [invokeField, hn, herror, Nested.aim?_of_absent he hx, htype]

/-- A setter of the row itself is called on the row. -/
theorem invokeField_own_eq_ok_iff (hn : p.nested = none) {row row' : Obj} {v : Value} :
    p.invokeField row v = (row', .ok ()) ↔ p.method.invoke row [.value v] = .ok row' := by
  simp only [invokeField, hn]
  cases p.method.invoke row [.value v] <;> simp

end FillPlan

theorem mem_of_setterFor? {c : Class} {property : String} {m : Method} (h : setterFor? c property = some m) :
    m ∈ c.methods := (List.mem_filter.1 (List.mem_of_mem_head? h)).1

/-- **A plan's setter** is one of the row, or of a nested property of the row. -/
theorem of_compileFieldPlan {field : String} {row : Class} {p : FillPlan} (h : compileFieldPlan field row = some p) :
    (p.nested = none ∧ setterFor? row field = some p.method) ∨
      ∃ n property, p.nested = some n ∧ n ∈ row.nested ∧ setterFor? n.type property = some p.method := by
  unfold compileFieldPlan at h
  split at h
  · obtain ⟨m, hm, rfl⟩ := Option.map_eq_some_iff.1 h
    exact .inl ⟨rfl, hm⟩
  · split at h
    · cases h
    · rename_i n hn
      split at h
      · cases h
      · obtain ⟨m, hm, rfl⟩ := Option.map_eq_some_iff.1 h
        exact .inr ⟨n, _, rfl, List.mem_of_find?_eq_some hn, hm⟩

namespace Mapping

variable {m : Mapping}

/-- **A field that goes to its own setter**: one without a plan changes nothing, any other goes into the row by its plan
with the value converted. -/
theorem fillFieldAnew_eq_ok_iff (hm : m.rowFiller = .perField) {rowNo : Nat} {row row' : Obj} {field : String}
    {v : Value} :
    m.fillFieldAnew rowNo row field v = .ok row' ↔
      (compileFieldPlan field m.row = none ∧ row' = row) ∨
        ∃ p v', compileFieldPlan field m.row = some p ∧ coerce v p.targetKind = .ok v' ∧
          p.invokeField row v' = (row', .ok ()) := by
  simp only [fillFieldAnew, hm]
  cases compileFieldPlan field m.row with
  | none => simp [eq_comm]
  | some p =>
    cases hv : coerce v p.targetKind with
    | error err => simp [hv]
    | ok v' => rcases hi : p.invokeField row v' with ⟨row₁, err | _⟩ <;> simp [hv, hi]

end Mapping

end QueryRows
