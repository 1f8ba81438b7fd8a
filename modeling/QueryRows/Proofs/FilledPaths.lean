import QueryRows.Proofs.MemberNames
import QueryRows.Proofs.RowTypes
import QueryRows.Proofs.Stores
/-!
# FilledPaths — filling a field and reading its path meet at one object

The plan of a field and the path of the same text are made apart, and they come to nested objects apart: a plan creates
what is absent, a path answers null for it.  Both take the same nested property (`hops_of_resolve?`), so the path of a
field that is filled reads the object that the setter was called on; what the setter was not called on stays where it
was (`invokeField_meets_path`).
-/
namespace QueryRows

/-- **The setters of a class's fields change plain fields only**, those of its nested objects as well. -/
def Class.SettersKeepSlots (row : Class) : Prop :=
  ∀ ⦃field : String⦄ ⦃p : FillPlan⦄, compileFieldPlan field row = some p → p.method.KeepsSlots

/-- **The object that a plan's setter is called on**: the row itself, or its nested object, a fresh one where that is
absent. -/
def FillPlan.receiver (p : FillPlan) (row : Obj) : Obj :=
  match p.nested with
  | none => row
  | some n => (n.read? row).getD n.type.instantiate

/-! ### Slots -/

namespace Nested

variable {n : Nested Class} {o o' x : Obj}

/-- What a nested property reads is what its slot has. -/
theorem read?_of_slot {k : Nat} (hslot : n.slot = .single k) (o : Obj) :
    n.read? o = if o.type = n.owner then (o.one k).filter fun x => x.type = n.element else none := by
  cases o with
  | bag b | bagList l => simp [read?, hslot, entity?, Obj.one]
  | entity e => by_cases howner : (Obj.entity e).type = n.owner <;> simp [read?, hslot, entity?, howner, Obj.one]

theorem read?_congr (htype : o'.type = o.type) (hone : ∀ k, n.slot.place = .one k → o'.one k = o.one k) :
    n.read? o' = n.read? o := by
  cases hslot : n.slot with
  | single k => rw [read?_of_slot hslot, read?_of_slot hslot, htype, hone k (by rw [hslot, Slot.place])]
  | collection kind k => simp only [read?, hslot]

theorem slots_setCurrent {k : Nat} (hslot : n.slot = .single k) (o x : Obj) :
    (∀ i ≠ k, (n.setCurrent o x).one i = o.one i) ∧ (n.setCurrent o x).many = o.many := by
  unfold setCurrent
  cases he : n.entity? o with
  | none => exact ⟨fun _ _ => rfl, rfl⟩
  | some e =>
    obtain ⟨rfl, -⟩ := of_entity?_eq_some he
    simp only [hslot]
    exact ⟨fun i hi => if_neg hi, rfl⟩

/-- The object that a setter of a single property is called on is the one there, or else a fresh one. -/
theorem aim?_of_single (hn : n.isCollection = false) (hx : n.aim? o = some x) :
    (n.read? o).getD n.type.instantiate = x := by
  obtain ⟨e, -, hx⟩ := Option.bind_eq_some_iff.1 hx
  have hcurrent : n.current? o = n.read? o := by
    cases hslot : n.slot with
    | single k => simp only [current?, hslot]
    | collection kind k => simp [isCollection, hslot] at hn
  rw [hcurrent] at hx
  rcases Option.or_eq_some_iff.1 hx with hx | ⟨hnone, hx⟩
  · rw [hx, Option.getD_some]
  · rw [hnone, Option.getD_none]
    split at hx
    · exact Option.some.inj hx
    · cases hx

end Nested

theorem reach?_cons_congr {n : Nested Class} {o o' : Obj} (h : n.read? o' = n.read? o) (hops : List (Nested Class)) :
    reach? (n :: hops) o' = reach? (n :: hops) o := by
  rw [reach?, reach?, h]

/-- Objects with the same slots have the same nested objects. -/
theorem reach?_of_slots {o o' : Obj} (htype : o'.type = o.type) (hone : o'.one = o.one) (n : Nested Class)
    (hops : List (Nested Class)) : reach? (n :: hops) o' = reach? (n :: hops) o :=
  reach?_cons_congr (Nested.read?_congr htype fun k _ => congrFun hone k) hops

/-! ### Plans and paths -/

/-- **The plan of a field and its path go through the same nested property**, or through none. -/
theorem hops_of_resolve? {row : Class} {field : String} {p : FillPlan} {path : FieldPath}
    (hblank : ∀ c ∈ field.toList, Text.isBlank c = false) (hp : compileFieldPlan field row = some p)
    (hpath : FieldPath.resolve? row field = some path) :
    path.hops = p.nested.toList ∧ ∀ n, p.nested = some n → n.isCollection = false := by
  rw [compileFieldPlan_eq] at hp
  rw [FieldPath.resolve?, pathSegments_of_no_blank hblank] at hpath
  obtain ⟨⟨hops, g⟩, hresolve, rfl⟩ := Option.map_eq_some_iff.1 hpath
  split at hp
  · rename_i property hsegments
    obtain ⟨m, -, rfl⟩ := Option.map_eq_some_iff.1 hp
    rw [hsegments] at hresolve
    obtain ⟨g', -, heq⟩ := Option.map_eq_some_iff.1 hresolve
    cases heq
    exact ⟨rfl, fun n hn => by cases hn⟩
  · rename_i head property hsegments
    obtain ⟨n, hnested, hp⟩ := Option.bind_eq_some_iff.1 hp
    obtain ⟨m, -, rfl⟩ := Option.map_eq_some_iff.1 hp
    rw [hsegments, resolveSegments] at hresolve
    · simp only [hnested] at hresolve
      split at hresolve
      · cases hresolve
      · rename_i hsingle
        obtain ⟨⟨hops', g'⟩, hrest, heq⟩ := Option.map_eq_some_iff.1 hresolve
        obtain ⟨g'', -, heq'⟩ := Option.map_eq_some_iff.1 hrest
        cases heq
        cases heq'
        refine ⟨rfl, fun n' hn' => ?_⟩
        cases hn'
        exact Bool.eq_false_iff.2 hsingle
    · simp
  · cases hp

namespace FillPlan

variable {p : FillPlan} {n : Nested Class} {o o' : Obj} {v : Value}

theorem receiver_own (hn : p.nested = none) (row : Obj) : p.receiver row = row := by
  rw [receiver]
  simp only [hn]

theorem receiver_nested (hn : p.nested = some n) (row : Obj) :
    p.receiver row = (n.read? row).getD n.type.instantiate := by
  rw [receiver]
  simp only [hn]

/-- **What a setter of the row does** to the row, and to what is nested in it: nothing. -/
theorem of_invokeField_own (hkeeps : p.method.KeepsSlots) (hn : p.nested = none)
    (hfill : p.invokeField o v = (o', .ok ())) :
    p.method.invoke o [.value v] = .ok o' ∧ (∀ n : Nested Class, n.read? o' = n.read? o) ∧ o'.many = o.many := by
  have hinvoke := (invokeField_own_eq_ok_iff hn).1 hfill
  obtain ⟨hone, hmany⟩ := hkeeps hinvoke
  exact ⟨hinvoke, fun n => Nested.read?_congr (Method.type_invoke hinvoke) fun k _ => congrFun hone k, hmany⟩

/-- **What a setter of a nested object does** to it, and to what is in other slots: nothing. -/
theorem of_invokeField_nested (hn : p.nested = some n) (hsingle : n.isCollection = false)
    (hfill : p.invokeField o v = (o', .ok ())) :
    ∃ x', p.method.invoke (p.receiver o) [.value v] = .ok x' ∧ n.read? o' = some x' ∧
      (∀ m : Nested Class, m.slot.place ≠ p.place → m.read? o' = m.read? o) ∧ o'.many = o.many := by
  cases hslot : n.slot with
  | collection kind k => simp [Nested.isCollection, hslot] at hsingle
  | single k =>
    have hempty : ¬ (n.emptyIn o = true ∧ v.isNull = true) := by simp [Nested.emptyIn, hslot]
    obtain ⟨x, x', haim, hinvoke, rfl⟩ : ∃ x x', n.aim? o = some x ∧ p.method.invoke x [.value v] = .ok x' ∧
        o' = n.setCurrent o x' := by
      have h := (invokeField_eq_ok_iff hn).1 hfill
      rwa [if_neg hempty] at h
    obtain ⟨hone, hmany⟩ := Nested.slots_setCurrent hslot o x'
    obtain ⟨e, he, -⟩ := Option.bind_eq_some_iff.1 haim
    have htype : x'.type = n.element := (Method.type_invoke hinvoke).trans (Nested.type_of_aim? hsingle haim)
    have hread : n.read? (n.setCurrent o x') = some x' := by
      have hcurrent := Nested.current?_setCurrent he fun _ => htype
      rwa [Nested.current?, hslot] at hcurrent
    have hreceiver : p.receiver o = x := (receiver_nested hn o).trans (Nested.aim?_of_single hsingle haim)
    have hplace : p.place = .one k := by simp only [place, hn, hslot, Slot.place]
    refine ⟨x', hreceiver.symm ▸ hinvoke, hread, fun m hm => ?_, hmany⟩
    refine Nested.read?_congr (Nested.type_setCurrent n o x') fun i hi => hone i ?_
    rintro rfl
    exact hm (hi.trans hplace.symm)

/-- **A field is filled where its path reads.**  Its setter is called on the row or on the nested object, which is a
fresh one only if it was absent, and the path then reads the getter of that very object.  An object that was there is
not replaced: what is nested in it stays, as do all objects in other slots and every path through them. -/
theorem invokeField_meets_path {row : Class} {field : String} {path : FieldPath} (hsetters : row.SettersKeepSlots)
    (hblank : ∀ c ∈ field.toList, Text.isBlank c = false) (hp : compileFieldPlan field row = some p)
    (hpath : FieldPath.resolve? row field = some path) (hfill : p.invokeField o v = (o', .ok ())) :
    ∃ x', p.method.invoke (p.receiver o) [.value v] = .ok x' ∧ reach? path.hops o' = some x' ∧
      path.read o' = path.getter.read x' ∧
      (∀ n x, p.nested = some n → n.read? o = some x →
        p.receiver o = x ∧ ∀ m hops, reach? (n :: m :: hops) o' = reach? (n :: m :: hops) o) ∧
      (∀ n hops, n.slot.place ≠ p.place → reach? (n :: hops) o' = reach? (n :: hops) o ∧
        ∀ q : FieldPath, q.hops = n :: hops → q.read o' = q.read o) ∧
      o'.many = o.many := by
  obtain ⟨hhops, hsingle⟩ := hops_of_resolve? hblank hp hpath
  have hpaths {n : Nested Class} (hread : n.read? o' = n.read? o) (hops : List (Nested Class)) :
      reach? (n :: hops) o' = reach? (n :: hops) o ∧ ∀ q : FieldPath, q.hops = n :: hops → q.read o' = q.read o := by
    refine ⟨reach?_cons_congr hread hops, fun q hq => ?_⟩
    rw [FieldPath.read, FieldPath.read, readThrough_eq, readThrough_eq, hq, reach?_cons_congr hread]
  cases hn : p.nested with
  | none =>
    obtain ⟨hinvoke, hread, hmany⟩ := of_invokeField_own (hsetters hp) hn hfill
    have hreach : reach? path.hops o' = some o' := by
      rw [hhops, hn]
      rfl
    refine ⟨o', (receiver_own hn o).symm ▸ hinvoke, hreach, ?_, fun n x hn' => (nomatch hn'),
      fun n hops _ => hpaths (hread n) hops, hmany⟩
    rw [FieldPath.read, readThrough_eq, hreach]
  | some n =>
    obtain ⟨x', hinvoke, hread, hothers, hmany⟩ := of_invokeField_nested hn (hsingle n hn) hfill
    have hreach : reach? path.hops o' = some x' := by
      rw [hhops, hn, Option.toList_some, reach?, hread]
      rfl
    refine ⟨x', hinvoke, hreach, ?_, ?_, fun m hops hm => hpaths (hothers m hm) hops, hmany⟩
    · rw [FieldPath.read, readThrough_eq, hreach]
    · intro n' x hn' hx
      cases hn'
      have hreceiver : p.receiver o = x := by rw [receiver_nested hn, hx, Option.getD_some]
      rw [hreceiver] at hinvoke
      refine ⟨hreceiver, fun m hops => ?_⟩
      -- the setter has left the slots of its object as they were
      rw [reach?, hread, reach?, hx]
      exact reach?_of_slots (Method.type_invoke hinvoke) (hsetters hp hinvoke).1 m hops

end FillPlan

/-! ### Letters from one city to another -/

def cityClass : Class :=
  ((Class.ofEntity "City" 1).withSetter "name" .text ⟨.text, true⟩ "name").withGetter "name" .text true "name" .null

def letterClass : Class :=
  (((Class.ofEntity "Letter" 0).withSetter "subject" .text ⟨.text, true⟩ "subject").withNested "origin" cityClass
    (.entity 1) (.single 0)).withNested "destination" cityClass (.entity 1) (.single 1)

/-- A letter from Uruk, to nowhere so far. -/
def urukLetter : Obj := .entity ((Entity.blank 0).setOne 0 (.entity ((Entity.blank 1).setField "name" (.text "Uruk"))))

theorem letterClass_settersKeepSlots : letterClass.SettersKeepSlots := by
  intro field p hp
  rcases of_compileFieldPlan hp with ⟨-, hm⟩ | ⟨n, property, -, hmem, hm⟩
  · rw [List.mem_singleton.1 (mem_of_setterFor? hm)]
    exact (Class.storesInto_setter rfl "subject" .text ⟨.text, true⟩ "subject").keepsSlots
  · have hcity : n.type = cityClass := by
      rcases List.mem_cons.1 hmem with rfl | hmem
      · rfl
      · rw [List.mem_singleton.1 hmem]
    rw [hcity] at hm
    rw [List.mem_singleton.1 (mem_of_setterFor? hm)]
    exact (Class.storesInto_setter rfl "name" .text ⟨.text, true⟩ "name").keepsSlots

/-- The destination is a new city, and its path reads the name that it is given; the origin is the city that it was. -/
theorem FillPlan.invokeField_meets_path_letter :
    ∃ p path origin letter, letterClass.SettersKeepSlots ∧ (∀ c ∈ "destination.name".toList, Text.isBlank c = false) ∧
      compileFieldPlan "destination.name" letterClass = some p ∧
      FieldPath.resolve? letterClass "destination.name" = some path ∧
      FieldPath.resolve? letterClass "origin.name" = some origin ∧
      p.invokeField urukLetter (.text "Ur") = (letter, .ok ()) ∧ p.receiver urukLetter = cityClass.instantiate ∧
      path.read urukLetter = .ok .null ∧ path.read letter = .ok (.text "Ur") ∧
      origin.read urukLetter = .ok (.text "Uruk") ∧ origin.read letter = .ok (.text "Uruk") := by
  have hblank : ∀ c ∈ "destination.name".toList, Text.isBlank c = false := fun c hc =>
    Bool.eq_false_iff.2 (List.any_eq_false.1 (by decide) c hc)
  obtain ⟨p, path, origin, letter, n, city, hp, hpath, horigin, hhops, hn, hfill, hreceiver, habsent, hbefore, hinvoke,
      hname⟩ : ∃ p path origin letter n city, compileFieldPlan "destination.name" letterClass = some p ∧
      FieldPath.resolve? letterClass "destination.name" = some path ∧
      FieldPath.resolve? letterClass "origin.name" = some origin ∧ origin.hops = [n] ∧ n.slot.place ≠ p.place ∧
      p.invokeField urukLetter (.text "Ur") = (letter, .ok ()) ∧ p.receiver urukLetter = cityClass.instantiate ∧
      path.read urukLetter = .ok .null ∧ origin.read urukLetter = .ok (.text "Uruk") ∧
      p.method.invoke (p.receiver urukLetter) [.value (.text "Ur")] = .ok city ∧
      path.getter.read city = .ok (.text "Ur") :=
    ⟨_, _, _, _, _, _, rfl, rfl, rfl, rfl, by decide, rfl, rfl, rfl, rfl, rfl, rfl⟩
  obtain ⟨city', hinvoke', -, hread, -, hothers, -⟩ :=
    FillPlan.invokeField_meets_path letterClass_settersKeepSlots hblank hp hpath hfill
  obtain rfl : city = city' := Except.ok.inj (hinvoke.symm.trans hinvoke')
  exact ⟨p, path, origin, letter, letterClass_settersKeepSlots, hblank, hp, hpath, horigin, hfill, hreceiver, habsent,
    hread.trans hname, hbefore, ((hothers n [] hn).2 origin hhops).trans hbefore⟩

end QueryRows
