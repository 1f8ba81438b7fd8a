import Mathlib.Tactic.SplitIfs
import QueryRows.Class.Builder
import QueryRows.Proofs.Gathering
import QueryRows.Proofs.PerField
import QueryRows.Proofs.Results
/-!
# Stores — setters that store apart do not see each other

A setter that stores into a field changes nothing else of its object (`Method.StoresInto`), and a nested object is
changed in its slot alone (`Nested.modify?`).  So two values that are stored in different slots, or in different fields
of the same object, can be stored in either order (`FillPlan.store_comm`).
-/
namespace QueryRows

/-! ### Fields and slots -/

theorem NameMap.insert_comm {α : Type} (m : NameMap α) {a b : String} (h : a ≠ b) (x y : α) :
    (m.insert a x).insert b y = (m.insert b y).insert a x := by
  refine ext_get? fun name => ?_
  by_cases ha : name = a
  · rw [ha, get?_insert_of_ne _ _ h, get?_insert_self, get?_insert_self]
  · by_cases hb : name = b
    · rw [hb, get?_insert_self, get?_insert_of_ne _ _ (Ne.symm h), get?_insert_self]
    · rw [get?_insert_of_ne _ _ hb, get?_insert_of_ne _ _ ha, get?_insert_of_ne _ _ ha, get?_insert_of_ne _ _ hb]

namespace Entity

variable {O : Type} (e : Entity O)

@[simp] theorem tag_setField (field : String) (v : Value) : (e.setField field v).tag = e.tag := rfl

theorem setField_comm {a b : String} (h : a ≠ b) (v w : Value) :
    (e.setField a v).setField b w = (e.setField b w).setField a v := by
  simp only [setField, NameMap.insert_comm e.fields h]

theorem setOne_comm {i k : Nat} (h : i ≠ k) (x y : O) :
    (e.setOne i x).setOne k y = (e.setOne k y).setOne i x := by
  simp only [setOne, mk.injEq, true_and, and_true]
  funext j
  split
  · rename_i hj
    rw [if_neg fun hi => h (hi.symm.trans hj)]
  · rfl

theorem setOne_setMany_comm (i k : Nat) (x : O) (xs : List O) :
    (e.setOne i x).setMany k xs = (e.setMany k xs).setOne i x := rfl

theorem setMany_comm {i k : Nat} (h : i ≠ k) (xs ys : List O) :
    (e.setMany i xs).setMany k ys = (e.setMany k ys).setMany i xs := by
  simp only [setMany, mk.injEq, true_and]
  funext j
  split
  · rename_i hj
    rw [if_neg fun hi => h (hi.symm.trans hj)]
  · rfl

end Entity

/-- What a setter makes of an object of a type: a value taken is stored in a field, and no value is a failure. -/
def Obj.setField? (type : ObjectType) (field : String) (v? : Option Value) (o : Obj) : Option Obj :=
  match o with
  | .entity e => if o.type = type then v?.map fun v => .entity (e.setField field v) else none
  | _ => none

namespace Obj

variable {t t' : ObjectType}

theorem setField?_entity (t : ObjectType) (field : String) (v? : Option Value) (e : Entity Obj) :
    (Obj.entity e).setField? t field v? =
      if .entity e.tag = t then v?.map fun v => .entity (e.setField field v) else none := rfl

theorem setField?_comm {a b : String} (h : a ≠ b) (v? w? : Option Value) (o : Obj) :
    (o.setField? t a v?).bind (·.setField? t' b w?) = (o.setField? t' b w?).bind (·.setField? t a v?) := by
  cases o with
  | bag b | bagList l => rfl
  | entity e =>
    by_cases ht : ObjectType.entity e.tag = t
    · subst ht
      by_cases ht' : ObjectType.entity e.tag = t'
      · subst ht'
        cases v? <;> cases w? <;> simp [setField?_entity, Entity.setField_comm e h]
      · cases v? <;> simp [setField?_entity, ht']
    · by_cases ht' : ObjectType.entity e.tag = t'
      · subst ht'
        cases w? <;> simp [setField?_entity, ht]
      · simp [setField?_entity, ht, ht']

end Obj

/-- Where in a row a plan's setter stores. -/
inductive Place where
  | row
  | one (slot : Nat)
  | many (slot : Nat)
deriving DecidableEq

def Slot.place : Slot → Place
  | .single k => .one k
  | .collection _ k => .many k

/-! ### Nested objects -/

namespace Nested

/-- The object with the nested object changed that a setter is called on. -/
def modify? (n : Nested Class) (change : Obj → Option Obj) (o : Obj) : Option Obj :=
  (n.aim? o).bind fun x => (change x).map (n.setCurrent o)

theorem modify?_eq_some_iff {n : Nested Class} {change : Obj → Option Obj} {o o' : Obj} :
    n.modify? change o = some o' ↔ ∃ x x', n.aim? o = some x ∧ change x = some x' ∧ o' = n.setCurrent o x' := by
  simp only [modify?, Option.bind_eq_some_iff, Option.map_eq_some_iff]
  constructor
  · rintro ⟨x, hx, x', hx', rfl⟩
    exact ⟨x, x', hx, hx', rfl⟩
  · rintro ⟨x, x', hx, hx', rfl⟩
    exact ⟨x, hx, x', hx', rfl⟩

/-- **A change of an object that a nested object takes no part in**: it leaves the nested object as it is, and does the
same whatever the nested object is. -/
structure Frames (n : Nested Class) (change : Obj → Option Obj) : Prop where
  aim : ∀ {o o' : Obj}, change o = some o' → n.aim? o' = n.aim? o
  set : ∀ o x : Obj, change (n.setCurrent o x) = (change o).map (n.setCurrent · x)

variable {n n' : Nested Class} {change other : Obj → Option Obj} {o x y : Obj}

/-- **Such a change comes before or after**. -/
theorem Frames.modify?_comm (h : n.Frames change) (o : Obj) :
    (change o).bind (n.modify? other) = (n.modify? other o).bind change := by
  unfold modify?
  cases ho : change o with
  | none =>
    cases n.aim? o with
    | none => rfl
    | some x => cases hy : other x <;> simp [hy, h.set, ho]
  | some o' =>
    rw [Option.bind_some, h.aim ho]
    cases n.aim? o with
    | none => rfl
    | some x => cases hy : other x <;> simp [hy, h.set, ho]

theorem type_of_aim? (hn : n.isCollection = false) (hx : n.aim? o = some x) : x.type = n.element := by
  obtain ⟨e, he, hx⟩ := Option.bind_eq_some_iff.1 hx
  cases hslot : n.slot with
  | collection kind k => simp [isCollection, hslot] at hn
  | single k =>
    rcases Option.or_eq_some_iff.1 hx with hx | ⟨-, hx⟩
    · simp only [current?, hslot, read?, he, Option.bind_some, Option.filter_eq_some_iff, decide_eq_true_eq] at hx
      exact hx.2
    · split at hx
      · rename_i htype
        cases hx
        exact n.type.type_initial.trans htype
      · cases hx

/-- An object put in the place of the one that setters are called on is the one that they are called on. -/
theorem aim?_setCurrent (hx : n.aim? o = some x) (htype : y.type = x.type) : n.aim? (n.setCurrent o y) = some y := by
  obtain ⟨e, he, -⟩ := Option.bind_eq_some_iff.1 hx
  have hcurrent : n.current? (n.setCurrent o y) = some y :=
    current?_setCurrent he fun hn => htype.trans (type_of_aim? hn hx)
  obtain ⟨e', he'⟩ : ∃ e', n.entity? (n.setCurrent o y) = some e' := by
    obtain ⟨rfl, howner⟩ := of_entity?_eq_some he
    rw [setCurrent, he]
    cases n.slot with
    | single k => exact ⟨_, entity?_of_owner howner⟩
    | collection kind k => cases kind <;> exact ⟨_, entity?_of_owner howner⟩
  exact aim?_of_current he' hcurrent

theorem modify?_bind (htype : ∀ {x y : Obj}, change x = some y → y.type = x.type) (o : Obj) :
    (n.modify? change o).bind (n.modify? other) =
      (n.aim? o).bind fun x => ((change x).bind other).map (n.setCurrent o) := by
  unfold modify?
  cases hx : n.aim? o with
  | none => rfl
  | some x =>
    cases hy : change x with
    | none => simp [hy]
    | some y =>
      obtain ⟨e, he, -⟩ := Option.bind_eq_some_iff.1 hx
      have hset : n.setCurrent (n.setCurrent o y) = n.setCurrent o := funext (setCurrent_setCurrent he)
      simp [hy, aim?_setCurrent hx (htype hy), hset]

/-- **Two changes of the same nested object come in either order if they do so on every object.** -/
theorem modify?_comm_self (hchange : ∀ {x y : Obj}, change x = some y → y.type = x.type)
    (hother : ∀ {x y : Obj}, other x = some y → y.type = x.type)
    (hcomm : ∀ x, (change x).bind other = (other x).bind change) (o : Obj) :
    (n.modify? change o).bind (n.modify? other) = (n.modify? other o).bind (n.modify? change) := by
  simp only [modify?_bind hchange, modify?_bind hother, hcomm]

/-- An entity with another object in the place of the one being filled. -/
def put (n : Nested Class) (e : Entity Obj) (x : Obj) : Entity Obj :=
  match n.slot with
  | .single k => e.setOne k x
  | .collection .list k => e.setMany k ((e.many k).dropLast ++ [x])
  | .collection (.set _) k => e.setMany k (x :: (e.many k).tail)

/-- The object being filled in an entity. -/
def held? (n : Nested Class) (e : Entity Obj) : Option Obj :=
  match n.slot with
  | .single k => (e.one k).filter fun x => x.type = n.element
  | .collection .list k => (e.many k).getLast?
  | .collection (.set _) k => (e.many k).head?

@[simp] theorem tag_put (n : Nested Class) (e : Entity Obj) (x : Obj) : (n.put e x).tag = e.tag := by
  rcases hslot : n.slot with k | ⟨_ | _, k⟩ <;> simp [put, hslot]

theorem setCurrent_entity (n : Nested Class) (e : Entity Obj) (x : Obj) :
    n.setCurrent (.entity e) x = .entity (if .entity e.tag = n.owner then n.put e x else e) := by
  by_cases howner : ObjectType.entity e.tag = n.owner
  · rw [setCurrent, entity?_of_owner howner.symm, if_pos howner]
    rcases hslot : n.slot with k | ⟨_ | _, k⟩ <;> simp [put, hslot]
  · rw [setCurrent, show n.entity? (.entity e) = none from if_neg howner, if_neg howner]

theorem aim?_entity (n : Nested Class) (e : Entity Obj) :
    n.aim? (.entity e) = if .entity e.tag = n.owner then
      (n.held? e).or (if n.type.type = n.element then some n.type.instantiate else none) else none := by
  by_cases howner : ObjectType.entity e.tag = n.owner
  · have he : n.entity? (.entity e) = some e := entity?_of_owner howner.symm
    rw [aim?, he, if_pos howner, Option.bind_some]
    rcases hslot : n.slot with k | ⟨_ | _, k⟩ <;> simp [current?, read?, elements?, held?, hslot, he]
  · rw [aim?, show n.entity? (.entity e) = none from if_neg howner, if_neg howner, Option.bind_none]

theorem put_setField (n : Nested Class) (e : Entity Obj) (field : String) (v : Value) (x : Obj) :
    n.put (e.setField field v) x = (n.put e x).setField field v := by
  rcases hslot : n.slot with k | ⟨_ | _, k⟩ <;> simp [put, hslot] <;> rfl

theorem put_comm (h : n.slot.place ≠ n'.slot.place) (e : Entity Obj) (x y : Obj) :
    n'.put (n.put e x) y = n.put (n'.put e y) x := by
  rcases hslot : n.slot with i | ⟨_ | _, i⟩ <;> rcases hslot' : n'.slot with k | ⟨_ | _, k⟩ <;>
    simp only [hslot, hslot', Slot.place, ne_eq, Place.one.injEq, Place.many.injEq] at h <;>
    simp [put, hslot, hslot', h, Ne.symm h, Entity.setOne_comm, Entity.setMany_comm, Entity.setOne_setMany_comm]

theorem held?_put (h : n.slot.place ≠ n'.slot.place) (e : Entity Obj) (x : Obj) :
    n'.held? (n.put e x) = n'.held? e := by
  rcases hslot : n.slot with i | ⟨_ | _, i⟩ <;> rcases hslot' : n'.slot with k | ⟨_ | _, k⟩ <;>
    simp only [hslot, hslot', Slot.place, ne_eq, Place.one.injEq, Place.many.injEq] at h <;>
    simp [put, held?, hslot, hslot', Ne.symm h]

theorem setCurrent_comm (h : n.slot.place ≠ n'.slot.place) (o x y : Obj) :
    n'.setCurrent (n.setCurrent o x) y = n.setCurrent (n'.setCurrent o y) x := by
  cases o with
  | bag b | bagList l => rfl
  | entity e =>
    simp only [setCurrent_entity, apply_ite Entity.tag, tag_put, ite_self]
    split_ifs <;> simp [put_comm h]

theorem aim?_setCurrent_of_ne (h : n.slot.place ≠ n'.slot.place) (o x : Obj) :
    n'.aim? (n.setCurrent o x) = n'.aim? o := by
  cases o with
  | bag b | bagList l => rfl
  | entity e =>
    simp only [setCurrent_entity, aim?_entity, apply_ite Entity.tag, tag_put, ite_self]
    split_ifs <;> simp [held?_put h]

/-- A nested object takes no part in changes of those in other slots. -/
theorem frames_modify? (h : n.slot.place ≠ n'.slot.place) : n.Frames (n'.modify? change) where
  aim := by
    intro o o' ho
    obtain ⟨x, y, -, -, rfl⟩ := modify?_eq_some_iff.1 ho
    exact aim?_setCurrent_of_ne (Ne.symm h) o y
  set := by
    intro o x
    unfold modify?
    rw [aim?_setCurrent_of_ne h]
    cases n'.aim? o with
    | none => rfl
    | some y => cases hy : change y <;> simp [hy, setCurrent_comm h]

/-- A nested object takes no part in what is stored in the fields of an object. -/
theorem frames_setField? (n : Nested Class) (t : ObjectType) (field : String) (v? : Option Value) :
    n.Frames (·.setField? t field v?) where
  aim := by
    intro o o' ho
    cases o with
    | bag b | bagList l => cases ho
    | entity e =>
      simp only [Obj.setField?] at ho
      split at ho
      · obtain ⟨v, -, rfl⟩ := Option.map_eq_some_iff.1 ho
        rw [aim?_entity, aim?_entity]
        rfl
      · cases ho
  set := by
    intro o x
    cases o with
    | bag b | bagList l => rfl
    | entity e =>
      -- the nested object does not show in the type that the setter asks for
      have htag : (if .entity e.tag = n.owner then n.put e x else e).tag = e.tag := by split <;> simp
      rw [setCurrent_entity]
      simp only [Obj.setField?_entity, htag]
      split
      · cases v? with
        | none => rfl
        | some v =>
          rw [Option.map_some, Option.map_some, Option.map_some, setCurrent_entity, Entity.tag_setField, put_setField]
          split <;> rfl
      · rfl

end Nested

/-! ### Plans -/

/-- **A setter stores into a field**: it takes a value or fails, and a value taken goes into the field; nothing else of
the object is looked at or changed. -/
def Method.StoresInto (m : Method) (field : String) : Prop :=
  (∃ tag, m.owner = .entity tag) ∧ ∃ take : Value → Except InvokeError Value, ∀ (e : Entity Obj) (v : Value),
    .entity e.tag = m.owner → m.run (.entity e) [.value v] = (take v).map fun v' => .entity (e.setField field v')

theorem Method.StoresInto.invoke {m : Method} {field : String} (h : m.StoresInto field) (v : Value) :
    ∃ v?, ∀ o, (m.invoke o [.value v]).toOption = o.setField? m.owner field v? := by
  obtain ⟨⟨tag, howner⟩, take, htake⟩ := h
  refine ⟨if m.arity = 1 then (take v).toOption else none, fun o => ?_⟩
  unfold Method.invoke
  by_cases harity : m.arity = 1
  · rw [if_neg fun hne => hne harity.symm, if_pos harity]
    cases o with
    | bag b | bagList l => simp [howner, Obj.type, Obj.setField?, Except.toOption]
    | entity e =>
      rw [Obj.setField?_entity]
      by_cases htype : ObjectType.entity e.tag = m.owner
      · rw [if_neg fun hne => hne htype, if_pos htype, htake e v htype]
        cases take v <;> rfl
      · rw [if_pos (show Obj.type (.entity e) ≠ m.owner from htype), if_neg htype]
        rfl
  · rw [if_pos fun hone => harity hone.symm, if_neg harity]
    cases o with
    | bag b | bagList l => rfl
    | entity e => simp [Obj.setField?_entity, Except.toOption]

/-- The object in a slot of an object; only entities have slots. -/
def Obj.one : Obj → Nat → Option Obj
  | .entity e, k => e.one k
  | _, _ => none

theorem Obj.slots_of_setField? {t : ObjectType} {field : String} {v? : Option Value} {o o' : Obj}
    (h : o.setField? t field v? = some o') : o'.one = o.one ∧ o'.many = o.many := by
  cases o with
  | bag b | bagList l => cases h
  | entity e =>
    rw [setField?_entity] at h
    split at h
    · obtain ⟨v, -, rfl⟩ := Option.map_eq_some_iff.1 h
      exact ⟨rfl, rfl⟩
    · cases h

/-- **A setter changes plain fields only**: the slots of its object stay as they are. -/
def Method.KeepsSlots (m : Method) : Prop :=
  ∀ ⦃o o' : Obj⦄ ⦃v : Value⦄, m.invoke o [.value v] = .ok o' → o'.one = o.one ∧ o'.many = o.many

/-- A setter changes nothing about the collections of an object. -/
def Method.KeepsCollections (m : Method) : Prop :=
  ∀ ⦃o o' : Obj⦄ ⦃v : Value⦄, m.invoke o [.value v] = .ok o' → ∀ k, o'.many k = o.many k

theorem Method.KeepsSlots.keepsCollections {m : Method} (h : m.KeepsSlots) : m.KeepsCollections :=
  fun _ _ _ hinvoke => congrFun (h hinvoke).2

theorem Method.StoresInto.keepsSlots {m : Method} {field : String} (h : m.StoresInto field) : m.KeepsSlots := by
  intro o o' v hinvoke
  obtain ⟨v?, hv⟩ := h.invoke v
  exact Obj.slots_of_setField? ((hv o).symm.trans (toOption_eq_some_iff.2 hinvoke))

/-- The setter that a class of entities gets for a property. -/
def Class.setter (c : Class) (property : String) (kind : Kind) (type : FieldType) (field : String) : Method :=
  ⟨setterName property, [kind], c.type, onEntity (setterName property) (storeArgument (setterName property) type field),
    type_onEntity⟩

theorem Class.storesInto_setter {c : Class} {tag : Nat} (hc : c.type = .entity tag) (property : String) (kind : Kind)
    (type : FieldType) (field : String) : (c.setter property kind type field).StoresInto field := by
  refine ⟨⟨tag, hc⟩, fun v => (type.take v).mapError .value, fun e v _ => ?_⟩
  simp only [setter, onEntity, storeArgument]
  cases type.take v <;> rfl

namespace FillPlan

variable {p q : FillPlan}

/-- What a plan is for: a setter and the nested property that it is reached by, if it is not the row's. -/
def target (p : FillPlan) : Option (Nested Class) × Method := (p.nested, p.method)

def place (p : FillPlan) : Place :=
  match p.nested with
  | none => .row
  | some n => n.slot.place

/-- The nested object that a plan's setter is called on, whatever its property is called. -/
def object? (p : FillPlan) : Option (Nested Class) := p.nested.map fun n => { n with property := "" }

/-- **Two plans store apart**: in different slots, or into different fields of the same object. -/
def Apart (p q : FillPlan) : Prop :=
  p.place ≠ q.place ∨
    p.object? = q.object? ∧ ∃ a b, p.method.StoresInto a ∧ q.method.StoresInto b ∧ a ≠ b

def set? (p : FillPlan) (v : Value) (x : Obj) : Option Obj := (p.method.invoke x [.value v]).toOption

/-- **A value stored by a plan**, null or not: the row afterwards, unless the setter fails. -/
def store (p : FillPlan) (v : Value) (row : Obj) : Option Obj :=
  match p.object? with
  | none => p.set? v row
  | some n => n.modify? (p.set? v) row

theorem store_own (hn : p.nested = none) (v : Value) (row : Obj) : p.store v row = p.set? v row := by
  rw [store, object?, hn, Option.map_none]

theorem store_nested {n : Nested Class} (hn : p.nested = some n) (v : Value) (row : Obj) :
    p.store v row = n.modify? (p.set? v) row := by
  rw [store, object?, hn]
  rfl

theorem set?_eq_some_iff {v : Value} {x y : Obj} : p.set? v x = some y ↔ p.method.invoke x [.value v] = .ok y :=
  toOption_eq_some_iff

theorem type_set? {v : Value} {x y : Obj} (h : p.set? v x = some y) : y.type = x.type :=
  Method.type_invoke (set?_eq_some_iff.1 h)

theorem place_of_object? {n : Nested Class} (h : p.object? = some n) : p.place = n.slot.place := by
  obtain ⟨n', hn', rfl⟩ := Option.map_eq_some_iff.1 h
  rw [place, hn']

theorem place_of_object?_none (h : p.object? = none) : p.place = .row := by
  rw [place, Option.map_eq_none_iff.1 h]

theorem frames_set? {field : String} (h : p.method.StoresInto field) (v : Value) (n : Nested Class) :
    n.Frames (p.set? v) := by
  obtain ⟨v?, hv⟩ := h.invoke v
  rw [show p.set? v = (·.setField? p.method.owner field v?) from funext hv]
  exact n.frames_setField? _ _ _

/-- Values are stored in different fields of an object in either order. -/
theorem set?_comm {a b : String} (ha : p.method.StoresInto a) (hb : q.method.StoresInto b) (hne : a ≠ b) (v w : Value)
    (x : Obj) : (p.set? v x).bind (q.set? w) = (q.set? w x).bind (p.set? v) := by
  obtain ⟨v?, hv⟩ := ha.invoke v
  obtain ⟨w?, hw⟩ := hb.invoke w
  rw [show p.set? v = (·.setField? p.method.owner a v?) from funext hv,
    show q.set? w = (·.setField? q.method.owner b w?) from funext hw]
  exact x.setField?_comm hne v? w?

/-- **Values of plans that store apart are stored in either order**, with the same row or a failure in the end. -/
theorem store_comm (h : p.Apart q) (hp : ∃ a, p.method.StoresInto a) (hq : ∃ b, q.method.StoresInto b) (v w : Value)
    (row : Obj) : (p.store v row).bind (q.store w) = (q.store w row).bind (p.store v) := by
  unfold store
  rcases h with hplace | ⟨hobject, a, b, ha, hb, hne⟩
  · cases hn : p.object? with
    | none =>
      cases hn' : q.object? with
      | none => exact absurd ((place_of_object?_none hn).trans (place_of_object?_none hn').symm) hplace
      | some n' => exact (frames_set? hp.choose_spec v n').modify?_comm row
    | some n =>
      cases hn' : q.object? with
      | none => exact ((frames_set? hq.choose_spec w n).modify?_comm row).symm
      | some n' =>
        rw [place_of_object? hn, place_of_object? hn'] at hplace
        exact (Nested.frames_modify? (Ne.symm hplace)).modify?_comm row
  · rw [hobject]
    cases q.object? with
    | none => exact set?_comm ha hb hne v w row
    | some n => exact Nested.modify?_comm_self type_set? type_set? (set?_comm ha hb hne v w) row

/-! ### Values without effect -/

/-- **A value has no effect on a row**: the setter leaves the nested object that it would be called on as it is. -/
def Idle (p : FillPlan) (v : Value) (row : Obj) : Prop :=
  ∀ n, p.object? = some n → ∀ x, n.aim? row = some x → p.set? v x = some x

/-- **A value without effect has none either after another plan has stored.** -/
theorem Idle.store {v w : Value} {row row' : Obj} (h : q.Idle w row) (hapart : p.Apart q)
    (hp : ∃ a, p.method.StoresInto a) (hrow : p.store v row = some row') : q.Idle w row' := by
  intro n hn x hx
  unfold FillPlan.store at hrow
  rcases hapart with hplace | ⟨hobject, a, b, ha, hb, hne⟩
  · -- the nested object is where it was
    have haim : n.aim? row' = n.aim? row := by
      cases hn' : p.object? with
      | none =>
        rw [hn'] at hrow
        exact (frames_set? hp.choose_spec v n).aim hrow
      | some n' =>
        rw [hn'] at hrow
        rw [place_of_object? hn, place_of_object? hn'] at hplace
        obtain ⟨y, y', -, -, rfl⟩ := Nested.modify?_eq_some_iff.1 hrow
        exact Nested.aim?_setCurrent_of_ne hplace row y'
    exact h n hn x (haim ▸ hx)
  · -- the other plan has changed another field of it
    rw [hobject, hn] at hrow
    obtain ⟨y, y', hy, hy', rfl⟩ := Nested.modify?_eq_some_iff.1 hrow
    have haim : n.aim? (n.setCurrent row y') = some y' := Nested.aim?_setCurrent hy (type_set? hy')
    obtain rfl : y' = x := Option.some.inj (haim.symm.trans hx)
    have hcomm := set?_comm ha hb hne v w y
    rwa [h n hn y hy, hy', Option.bind_some, Option.bind_some, hy'] at hcomm

end FillPlan

end QueryRows
