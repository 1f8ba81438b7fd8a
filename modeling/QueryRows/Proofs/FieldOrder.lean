import Mathlib.Data.List.Perm.Basic
import QueryRows.Proofs.CollectionElements
/-!
# FieldOrder — the order in which fields are filled

Where different setters store apart, the fields of a record can be filled in any order, but for nulls: a null for a
collection is passed over while the collection has no element, and stored once it has one.  So two orders come to the
same row, or both fail, if they pass over the same fields, not counting those whose nulls leave a fresh element as it is
(`fillRow_of_perm`); which fields these are may depend on the order (`fillRow_order_matters`).
-/
namespace QueryRows

namespace Nested

variable {C : Type} {n : Nested C} {o o' : Obj}

/-- The slot of a collection that an object has. -/
def collectionIn? (n : Nested C) (o : Obj) : Option Nat :=
  match n.slot with
  | .single _ => none
  | .collection _ k => if (n.entity? o).isSome then some k else none

theorem isSome_entity?_of_type (h : o.type = o'.type) (ho : (n.entity? o).isSome) : (n.entity? o').isSome := by
  obtain ⟨e, he⟩ := Option.isSome_iff_exists.1 ho
  obtain ⟨rfl, howner⟩ := of_entity?_eq_some he
  cases o' with
  | entity e' => rw [entity?_of_owner (howner.trans h), Option.isSome_some]
  | bag b | bagList l => cases h

/-- Objects of one type have the same collections. -/
theorem collectionIn?_congr (h : o.type = o'.type) : n.collectionIn? o = n.collectionIn? o' := by
  have hentity : (n.entity? o).isSome = (n.entity? o').isSome :=
    Bool.eq_iff_iff.2 ⟨isSome_entity?_of_type h, isSome_entity?_of_type h.symm⟩
  rw [collectionIn?, collectionIn?, hentity]

end Nested

namespace Class

/-- **Different setters that fields go to store apart**, and each of them stores into a field. -/
structure StoresApart (row : Class) : Prop where
  stores : ∀ {field : String} {p : FillPlan}, compileFieldPlan field row = some p → ∃ a, p.method.StoresInto a
  apart : ∀ {field field' : String} {p q : FillPlan}, compileFieldPlan field row = some p →
    compileFieldPlan field' row = some q → p.target ≠ q.target → p.Apart q

/-- **Fields whose plans have different setters**, each with the nested property it is reached by. -/
def TargetsDiffer (row : Class) (fields : List (String × Value)) : Prop :=
  fields.Pairwise fun f g => ∀ p q, compileFieldPlan f.1 row = some p → compileFieldPlan g.1 row = some q →
    p.target ≠ q.target

/-- The collection that a field comes with a null to. -/
def nullFor? (row : Class) (f : String × Value) : Option Nat :=
  (compileFieldPlan f.1 row).bind fun p => p.nested.bind fun n =>
    (n.collectionIn? row.instantiate).filter fun _ => (coerce f.2 p.targetKind).toOption.any Value.isNull

/-- A field is passed over when some collections have elements: it comes with a null to another one. -/
def passesOver (row : Class) (filled : Nat → Bool) (f : String × Value) : Bool :=
  (row.nullFor? f).any fun k => !filled k

def filledAfter (row : Class) (filled : Nat → Bool) (f : String × Value) : Nat → Bool :=
  fun k => filled k || row.gives k f

/-- Fields told apart: those that are passed over, and those that are not. -/
def tellApart (row : Class) (filled : Nat → Bool) :
    List (String × Value) → List (String × Value) × List (String × Value)
  | [] => ([], [])
  | f :: fields =>
    let (passed, kept) := row.tellApart (row.filledAfter filled f) fields
    if row.passesOver filled f then (f :: passed, kept) else (passed, f :: kept)

/-- The collections that have elements in a fresh row. -/
def filledFresh (row : Class) (k : Nat) : Bool := !(row.instantiate.many k).isEmpty

/-- **The fields that are passed over in a fresh row**: those that come with a null to a collection without elements,
neither in a fresh row nor from an earlier field. -/
def passedOver (row : Class) (fields : List (String × Value)) : List (String × Value) :=
  (row.tellApart row.filledFresh fields).1

/-- **A field leaves fresh elements alone**: its setter takes the value, and changes nothing about a fresh nested object. -/
def LeavesFresh (row : Class) (f : String × Value) : Prop :=
  ∃ p n v, compileFieldPlan f.1 row = some p ∧ p.nested = some n ∧ coerce f.2 p.targetKind = .ok v ∧
    p.method.invoke n.type.instantiate [.value v] = .ok n.type.instantiate

/-- A field that may be passed over or not with the same row in the end. -/
def Unnoticed (row : Class) (f : String × Value) : Prop :=
  row.passesOver row.filledFresh f = true ∧ row.LeavesFresh f

open Classical in
/-- The fields of which it matters whether they are passed over. -/
noncomputable def noticed (row : Class) (fields : List (String × Value)) : List (String × Value) :=
  fields.filter fun f => ¬ row.Unnoticed f

/-- A field's value stored by its plan, null or not. -/
def store (row : Class) (f : String × Value) (o : Obj) : Option Obj :=
  match compileFieldPlan f.1 row with
  | none => some o
  | some p => (coerce f.2 p.targetKind).toOption.bind fun v => p.store v o

/-- The values of fields stored one after the other. -/
def storeAll (row : Class) (o? : Option Obj) (fields : List (String × Value)) : Option Obj :=
  fields.foldl (fun o? f => o?.bind (row.store f)) o?

/-- A field's value has no effect on an object. -/
def Idle (row : Class) (f : String × Value) (o : Obj) : Prop :=
  ∀ p v, compileFieldPlan f.1 row = some p → coerce f.2 p.targetKind = .ok v → p.Idle v o

variable {row : Class} {fields fields' : List (String × Value)}

/-! ### Fields passed over and fields kept -/

theorem tellApart_perm (filled : Nat → Bool) :
    fields.Perm ((row.tellApart filled fields).1 ++ (row.tellApart filled fields).2) := by
  induction fields generalizing filled with
  | nil => exact .nil
  | cons f fields ih =>
    simp only [tellApart]
    split
    · exact (ih _).cons f
    · exact ((ih _).cons f).trans List.perm_middle.symm

theorem kept_sublist (filled : Nat → Bool) : (row.tellApart filled fields).2.Sublist fields := by
  induction fields generalizing filled with
  | nil => exact .slnil
  | cons f fields ih =>
    simp only [tellApart]
    split
    · exact (ih _).cons f
    · exact (ih _).cons_cons f

theorem passed_sublist (filled : Nat → Bool) : (row.tellApart filled fields).1.Sublist fields := by
  induction fields generalizing filled with
  | nil => exact .slnil
  | cons f fields ih =>
    simp only [tellApart]
    split
    · exact (ih _).cons_cons f
    · exact (ih _).cons f

/-- A field that is passed over later on would be passed over at once. -/
theorem passesOver_of_mem_passed {f : String × Value} : ∀ {fields : List (String × Value)} {filled : Nat → Bool},
    f ∈ (row.tellApart filled fields).1 → row.passesOver filled f = true
  | g :: fields, filled, h => by
    have hlater : f ∈ (row.tellApart (row.filledAfter filled g) fields).1 → row.passesOver filled f = true := by
      intro hmem
      obtain ⟨k, hk, hempty⟩ := (Option.any_eq_true _ _).1 (passesOver_of_mem_passed hmem)
      refine (Option.any_eq_true _ _).2 ⟨k, hk, ?_⟩
      simp only [filledAfter, Bool.not_or, Bool.and_eq_true] at hempty
      exact hempty.1
    simp only [tellApart] at h
    split at h
    · rename_i hg
      rcases List.mem_cons.1 h with rfl | h
      · exact hg
      · exact hlater h
    · exact hlater h

/-- **A field is passed over in every order** when the collection that it comes with a null to gets no other value. -/
theorem mem_passed_of_unmixed {f : String × Value} : ∀ {fields : List (String × Value)} {filled : Nat → Bool},
    f ∈ fields → (∀ k ∈ row.nullFor? f, ∀ g ∈ fields, row.gives k g = false) → row.passesOver filled f = true →
      f ∈ (row.tellApart filled fields).1
  | g :: fields, filled, hmem, hunmixed, hf => by
    rcases List.mem_cons.1 hmem with rfl | hmem
    · simp only [tellApart, hf, if_true, List.mem_cons_self]
    · obtain ⟨k, hk, hempty⟩ := (Option.any_eq_true _ _).1 hf
      have hafter : row.passesOver (row.filledAfter filled g) f = true :=
        (Option.any_eq_true _ _).2 ⟨k, hk, by simpa [filledAfter, hunmixed k hk g (.head _)] using hempty⟩
      have hlater := mem_passed_of_unmixed hmem (fun k hk g hg => hunmixed k hk g (.tail _ hg)) hafter
      simp only [tellApart]
      split
      · exact .tail _ hlater
      · exact hlater

/-- What it means that a field comes with a null to a collection. -/
theorem of_nullFor? {f : String × Value} {k : Nat} (h : row.nullFor? f = some k) :
    ∃ p n v, compileFieldPlan f.1 row = some p ∧ p.nested = some n ∧ (n.kindAt? k).isSome ∧
      (n.entity? row.instantiate).isSome ∧ coerce f.2 p.targetKind = .ok v ∧ v.isNull = true := by
  obtain ⟨p, hp, h⟩ := Option.bind_eq_some_iff.1 h
  obtain ⟨n, hn, h⟩ := Option.bind_eq_some_iff.1 h
  obtain ⟨hk, hnull⟩ := Option.filter_eq_some_iff.1 h
  obtain ⟨v, hv, hnull⟩ := (Option.any_eq_true _ _).1 hnull
  refine ⟨p, n, v, hp, hn, ?_, ?_, toOption_eq_some_iff.1 hv, hnull⟩ <;> unfold Nested.collectionIn? at hk <;>
    split at hk
  · cases hk
  · rename_i hslot
    split at hk
    · cases hk
      simp [Nested.kindAt?, hslot]
    · cases hk
  · cases hk
  · split at hk
    · assumption
    · cases hk

/-! ### Fields that are noticed -/

theorem noticed_cons_of_not {f : String × Value} (h : ¬ row.Unnoticed f) :
    row.noticed (f :: fields) = f :: row.noticed fields := by
  rw [noticed, List.filter_cons_of_pos (by simpa using h)]
  rfl

theorem noticed_cons {f : String × Value} (h : row.Unnoticed f) : row.noticed (f :: fields) = row.noticed fields := by
  rw [noticed, List.filter_cons_of_neg (by simpa using h)]
  rfl

theorem noticed_perm (fields : List (String × Value)) : (row.noticed fields).Perm
    (row.noticed (row.passedOver fields) ++ row.noticed (row.tellApart row.filledFresh fields).2) := by
  rw [noticed, noticed, noticed, ← List.filter_append]
  exact (tellApart_perm row.filledFresh).filter _

theorem TargetsDiffer.perm (h : row.TargetsDiffer fields) (hperm : fields.Perm fields') : row.TargetsDiffer fields' :=
  hperm.pairwise h fun hfg p q hp hq => Ne.symm (hfg q p hq hp)

/-- Among fields whose targets differ, no field is passed over twice. -/
theorem nodup_passedOver (h : row.TargetsDiffer fields) : (row.passedOver fields).Nodup := by
  have hpassed : row.TargetsDiffer (row.passedOver fields) := h.sublist (passed_sublist _)
  refine hpassed.imp_of_mem fun {f g} hf _ hfg heq => ?_
  obtain ⟨k, hk, -⟩ := (Option.any_eq_true _ _).1 (passesOver_of_mem_passed hf)
  obtain ⟨p, -, -, hp, -⟩ := of_nullFor? hk
  exact hfg p p hp (heq ▸ hp) rfl

/-- **Orders that pass over the same fields, of those that are noticed, keep the same of them.** -/
theorem noticed_kept_perm (hperm : fields.Perm fields') (htargets : row.TargetsDiffer fields)
    (h : ∀ f ∈ fields, ¬ row.LeavesFresh f → (f ∈ row.passedOver fields ↔ f ∈ row.passedOver fields')) :
    (row.noticed (row.tellApart row.filledFresh fields).2).Perm
      (row.noticed (row.tellApart row.filledFresh fields').2) := by
  have hpassed : (row.noticed (row.passedOver fields)).Perm (row.noticed (row.passedOver fields')) := by
    refine (List.perm_ext_iff_of_nodup ((nodup_passedOver htargets).filter _)
      ((nodup_passedOver (htargets.perm hperm)).filter _)).2 fun f => ?_
    simp only [List.mem_filter, decide_eq_true_eq, and_congr_left_iff]
    intro hnoticed
    constructor <;> intro hf
    · have hfresh : ¬ row.LeavesFresh f := fun hfresh => hnoticed ⟨passesOver_of_mem_passed hf, hfresh⟩
      exact (h f ((passed_sublist _).mem hf) hfresh).1 hf
    · have hfresh : ¬ row.LeavesFresh f := fun hfresh => hnoticed ⟨passesOver_of_mem_passed hf, hfresh⟩
      exact (h f (hperm.mem_iff.2 ((passed_sublist _).mem hf)) hfresh).2 hf
  -- both orders are the fields passed over and the ones kept, so what is left of equal parts is equal
  have hnoticed : (row.noticed fields).Perm (row.noticed fields') := hperm.filter _
  have hsplit := hnoticed.trans (noticed_perm fields')
  exact (List.perm_append_left_iff _).1 (((noticed_perm fields).symm.trans hsplit).trans (hpassed.symm.append_right _))

/-! ### Storing in any order -/

theorem store_of_plan {f : String × Value} {p : FillPlan} {v : Value} (hp : compileFieldPlan f.1 row = some p)
    (hv : coerce f.2 p.targetKind = .ok v) (o : Obj) : row.store f o = p.store v o := by
  simp only [store, hp, hv, Except.toOption, Option.bind_some]

theorem store_comm (h : row.StoresApart) {f g : String × Value}
    (htargets : ∀ p q, compileFieldPlan f.1 row = some p → compileFieldPlan g.1 row = some q → p.target ≠ q.target)
    (o : Obj) : (row.store f o).bind (row.store g) = (row.store g o).bind (row.store f) := by
  unfold store
  cases hp : compileFieldPlan f.1 row with
  | none => cases hq : compileFieldPlan g.1 row <;> simp
  | some p =>
    cases hq : compileFieldPlan g.1 row with
    | none => simp
    | some q =>
      cases hv : (coerce f.2 p.targetKind).toOption with
      | none => simp [hv]
      | some v =>
        cases hw : (coerce g.2 q.targetKind).toOption with
        | none => simp [hw]
        | some w =>
          simp only [hv, hw, Option.bind_some]
          exact FillPlan.store_comm (h.apart hp hq (htargets p q hp hq)) (h.stores hp) (h.stores hq) v w o

/-- **Fields whose setters differ are stored in any order.** -/
theorem storeAll_of_perm (h : row.StoresApart) (hperm : fields.Perm fields') (htargets : row.TargetsDiffer fields)
    (o? : Option Obj) : row.storeAll o? fields = row.storeAll o? fields' := by
  have hcomm : fields.Pairwise fun f g => ∀ o? : Option Obj,
      (o?.bind (row.store f)).bind (row.store g) = (o?.bind (row.store g)).bind (row.store f) :=
    htargets.imp fun hfg o? => by
      cases o? with
      | none => rfl
      | some o => exact store_comm h hfg o
  -- a swap of neighbours may meet them in either order, so the law is needed for both
  have hall := hcomm.forall_of_forall_of_flip (fun _ _ _ => rfl) (hcomm.imp fun hfg o? => (hfg o?).symm)
  exact hperm.foldl_eq' (fun f hf g hg => hall hf hg) o?

/-- **What has no effect has none after another field.** -/
theorem Idle.store (h : row.StoresApart) {f g : String × Value} {o o' : Obj} (hg : row.Idle g o)
    (htargets : ∀ p q, compileFieldPlan f.1 row = some p → compileFieldPlan g.1 row = some q → p.target ≠ q.target)
    (hf : row.store f o = some o') : row.Idle g o' := by
  intro q w hq hw
  unfold Class.store at hf
  split at hf
  · cases hf
    exact hg q w hq hw
  · rename_i p hp
    obtain ⟨v, -, hstore⟩ := Option.bind_eq_some_iff.1 hf
    exact (hg q w hq hw).store (h.apart hp hq (htargets p q hp hq)) (h.stores hp) hstore

theorem Unnoticed.idle {f : String × Value} (h : row.Unnoticed f) : row.Idle f row.instantiate := by
  obtain ⟨hpasses, p, n, v, hp, hn, hv, hleaves⟩ := h
  obtain ⟨k, hk, hempty⟩ := (Option.any_eq_true _ _).1 hpasses
  obtain ⟨p', n', v', hp', hn', hkind, -⟩ := of_nullFor? hk
  obtain rfl : p = p' := Option.some.inj (hp.symm.trans hp')
  obtain rfl : n = n' := Option.some.inj (hn.symm.trans hn')
  have hnil : row.instantiate.many k = [] := by simpa [filledFresh] using hempty
  intro q w hq hw m hm x hx
  obtain rfl : p = q := Option.some.inj (hp.symm.trans hq)
  obtain rfl : v = w := Except.ok.inj (hv.symm.trans hw)
  rw [FillPlan.object?, hn, Option.map_some] at hm
  cases hm
  -- the collection is empty in a fresh row, so it is a fresh element that the setter would be called on
  obtain rfl : x = n.type.instantiate := (Nested.aim?_of_many hkind hx).1 hnil
  exact FillPlan.set?_eq_some_iff.2 hleaves

/-- **A field without effect that is not passed over stores nothing new.** -/
theorem store_of_idle {f : String × Value} {filled : Nat → Bool} {o : Obj} (hf : row.Unnoticed f) (hidle : row.Idle f o)
    (htype : o.type = row.type) (hfilled : ∀ k, filled k = !(o.many k).isEmpty)
    (hkept : row.passesOver filled f = false) : row.store f o = some o := by
  obtain ⟨k, hk, -⟩ := (Option.any_eq_true _ _).1 hf.1
  obtain ⟨p, n, v, hp, hn, hkind, hentity, hv, -⟩ := of_nullFor? hk
  have hne : o.many k ≠ [] := by simpa [passesOver, hk, hfilled] using hkept
  obtain ⟨e, he⟩ := Option.isSome_iff_exists.1
    (Nested.isSome_entity?_of_type (row.type_initial.trans htype.symm) hentity)
  obtain ⟨x, hx, hself⟩ := Nested.aim?_of_many_ne_nil hkind he hne
  have hset : p.set? v x = some x := hidle p v hp hv { n with property := "" } (by rw [FillPlan.object?, hn]; rfl) x hx
  rw [store_of_plan hp hv, FillPlan.store_nested hn, Nested.modify?, hx, Option.bind_some, hset, Option.map_some, hself]

theorem kept_cons_of_passesOver {filled : Nat → Bool} {f : String × Value} (h : row.passesOver filled f = true) :
    (row.tellApart filled (f :: fields)).2 = (row.tellApart (row.filledAfter filled f) fields).2 := by
  simp only [tellApart, h, if_true]

theorem kept_cons_of_not {filled : Nat → Bool} {f : String × Value} (h : row.passesOver filled f = false) :
    (row.tellApart filled (f :: fields)).2 = f :: (row.tellApart (row.filledAfter filled f) fields).2 := by
  simp only [tellApart, h, Bool.false_eq_true, if_false]

theorem storeAll_cons (f : String × Value) (fields : List (String × Value)) (o : Obj) :
    row.storeAll (some o) (f :: fields) = row.storeAll (row.store f o) fields := rfl

/-- A kept field that is not noticed may be left out if it stores nothing new. -/
theorem storeAll_noticed_cons {f : String × Value} {o : Obj} (h : row.Unnoticed f → row.store f o = some o)
    (fields : List (String × Value)) :
    row.storeAll (some o) (row.noticed (f :: fields)) = row.storeAll (row.store f o) (row.noticed fields) := by
  by_cases hf : row.Unnoticed f
  · rw [noticed_cons hf, h hf]
  · rw [noticed_cons_of_not hf, storeAll_cons]

theorem storeAll_none (fields : List (String × Value)) : row.storeAll none fields = none := by
  induction fields with
  | nil => rfl
  | cons f fields ih => exact ih

theorem StoresApart.settersKeepCollections (h : row.StoresApart) : row.SettersKeepCollections := by
  intro field p hp hn
  obtain ⟨a, hstores⟩ := h.stores hp
  exact hstores.keepsSlots.keepsCollections

/-! ### Filling and storing -/

/-- **A field is passed over exactly if a null meets a collection without elements.** -/
theorem passesOver_iff {filled : Nat → Bool} {o : Obj} (htype : o.type = row.type)
    (hfilled : ∀ k, filled k = !(o.many k).isEmpty) {f : String × Value} {p : FillPlan} {v : Value}
    (hp : compileFieldPlan f.1 row = some p) (hv : coerce f.2 p.targetKind = .ok v) :
    row.passesOver filled f = true ↔ ∃ n, p.nested = some n ∧ n.emptyIn o = true ∧ v.isNull = true := by
  have hfresh (n : Nested Class) : n.collectionIn? row.instantiate = n.collectionIn? o :=
    Nested.collectionIn?_congr (row.type_initial.trans htype.symm)
  cases hn : p.nested with
  | none => simp [passesOver, nullFor?, hp, hn]
  | some n =>
    simp only [passesOver, nullFor?, hp, hn, hfresh, hv, Option.bind_some, Option.some.injEq, exists_eq_left',
      Except.toOption, Option.any_some]
    cases hslot : n.slot with
    | single k => simp [Nested.collectionIn?, Nested.emptyIn, hslot]
    | collection kind k =>
      cases he : n.entity? o with
      | none => simp [Nested.collectionIn?, Nested.emptyIn, hslot, he]
      | some e =>
        obtain ⟨rfl, -⟩ := Nested.of_entity?_eq_some he
        cases hnull : v.isNull <;> simp [Nested.collectionIn?, Nested.emptyIn, hslot, he, hfilled, Obj.many]

end Class

namespace Mapping

variable {m : Mapping} {rowNo : Nat} {filled : Nat → Bool} {o o' : Obj}

/-- **A field is filled by storing its value**, unless it is passed over. -/
theorem toOption_fillFieldAnew (hm : m.rowFiller = .perField) (htype : o.type = m.row.type)
    (hfilled : ∀ k, filled k = !(o.many k).isEmpty) (f : String × Value) :
    (m.fillFieldAnew rowNo o f.1 f.2).toOption =
      if m.row.passesOver filled f = true then some o else m.row.store f o := by
  refine Option.ext fun o' => ?_
  rw [toOption_eq_some_iff, fillFieldAnew_eq_ok_iff hm]
  cases hp : compileFieldPlan f.1 m.row with
  | none => simp [Class.passesOver, Class.nullFor?, Class.store, hp, eq_comm]
  | some p =>
    cases hv : coerce f.2 p.targetKind with
    | error e =>
      cases hn : p.nested <;> simp [Class.passesOver, Class.nullFor?, Class.store, hp, hn, hv, Except.toOption]
    | ok v =>
      simp only [Class.store_of_plan hp hv, Class.passesOver_iff htype hfilled hp hv]
      cases hn : p.nested with
      | none => simp [hv, FillPlan.invokeField_own_eq_ok_iff hn, FillPlan.store_own hn, FillPlan.set?_eq_some_iff]
      | some n =>
        simp only [hv, reduceCtorEq, false_and, false_or, Option.some.injEq, Except.ok.injEq, exists_and_left,
          exists_eq_left', FillPlan.invokeField_eq_ok_iff hn, FillPlan.store_nested hn]
        split
        · rw [Option.some.injEq, eq_comm]
        · simp only [Nested.modify?_eq_some_iff, FillPlan.set?_eq_some_iff, exists_and_left]

theorem filledAfter_of_fillFieldAnew (hm : m.rowFiller = .perField) (hkeep : m.row.SettersKeepCollections)
    (hfilled : ∀ k, filled k = !(o.many k).isEmpty) {f : String × Value}
    (h : m.fillFieldAnew rowNo o f.1 f.2 = .ok o') (k : Nat) :
    m.row.filledAfter filled f k = !(o'.many k).isEmpty := by
  have hfield := many_of_fillFieldAnew (k := k) hm hkeep h
  rw [Class.filledAfter, Class.gives, hfilled]
  cases hc : m.row.elementCall? k f with
  | none =>
    simp only [hc] at hfield
    simp [hfield]
  | some c =>
    simp only [hc] at hfield
    split at hfield
    · rename_i hpassed
      simp [hpassed, hfield]
    · rename_i hcalled
      rw [List.isEmpty_eq_false_iff.2 hfield.1, Option.any_some]
      by_cases hnil : o.many k = []
      · have hvalue : c.value.isNull = false := Bool.eq_false_iff.2 fun hnull => hcalled ⟨hnil, hnull⟩
        rw [hvalue]
        simp
      · rw [List.isEmpty_eq_false_iff.2 hnil]
        rfl

/-- **Fields are filled by storing the values of those that are not passed over**, and it is enough to store those that
are noticed: what has no effect at first has none later on. -/
theorem toOption_fillFieldsAnew (hm : m.rowFiller = .perField) (hrow : m.row.StoresApart) :
    ∀ {fields : List (String × Value)} {filled : Nat → Bool} {o : Obj}, o.type = m.row.type →
      (∀ k, filled k = !(o.many k).isEmpty) → m.row.TargetsDiffer fields →
        (∀ g ∈ fields, m.row.Unnoticed g → m.row.Idle g o) →
          (m.fillFieldsAnew rowNo o fields).toOption =
            m.row.storeAll (some o) (m.row.noticed (m.row.tellApart filled fields).2)
  | [], _, _, _, _, _, _ => rfl
  | f :: fields, filled, o, htype, hfilled, htargets, hidle => by
    obtain ⟨hdiffer, htargets⟩ := List.pairwise_cons.1 htargets
    rw [List.forall_mem_cons] at hidle
    have hfield : (m.fillFieldAnew rowNo o f.1 f.2).toOption = _ := toOption_fillFieldAnew hm htype hfilled f
    rw [fillFieldsAnew]
    cases hpassed : m.row.passesOver filled f with
    | true =>
      rw [hpassed, if_pos rfl, toOption_eq_some_iff] at hfield
      rw [Class.kept_cons_of_passesOver hpassed, hfield]
      exact toOption_fillFieldsAnew hm hrow htype
        (filledAfter_of_fillFieldAnew hm hrow.settersKeepCollections hfilled hfield) htargets hidle.2
    | false =>
      rw [hpassed, if_neg Bool.false_ne_true] at hfield
      have hstore : m.row.Unnoticed f → m.row.store f o = some o := fun hf =>
        Class.store_of_idle hf (hidle.1 hf) htype hfilled hpassed
      rw [Class.kept_cons_of_not hpassed, Class.storeAll_noticed_cons hstore, ← hfield]
      cases hf : m.fillFieldAnew rowNo o f.1 f.2 with
      | error e => exact (Class.storeAll_none _).symm
      | ok o' =>
        rw [hf] at hfield
        exact toOption_fillFieldsAnew hm hrow ((type_fillFieldAnew hf).trans htype)
          (filledAfter_of_fillFieldAnew hm hrow.settersKeepCollections hfilled hf) htargets fun g hg hunnoticed =>
            (hidle.2 g hg hunnoticed).store hrow (hdiffer g hg) hfield.symm

/-- A record's row, or none if it fails, is what storing the fields comes to that are noticed and not passed over. -/
theorem toOption_fillRow (hm : m.rowFiller = .perField) (hrow : m.row.StoresApart) {mem : FieldMemory}
    (hagrees : mem.Agrees m.row) (rowNo : Nat) {r : Record} (htargets : m.row.TargetsDiffer r.fields) :
    (m.fillRow mem rowNo r).2.toOption =
      m.row.storeAll (some m.row.instantiate) (m.row.noticed (m.row.tellApart m.row.filledFresh r.fields).2) := by
  rw [(m.fillRow_agrees hagrees rowNo r).1, fillRowAnew]
  exact toOption_fillFieldsAnew hm hrow m.row.type_initial (fun _ => rfl) htargets fun g _ hg => hg.idle

end Mapping

/-! ### Orders whose lines count pieces -/

/-- Fresh lines have no product and no pieces. -/
def freshPieceClass : Class := ((Class.ofEntity "Line" 2).withInitial "sku" .null).withInitial "qty" (.int 0)

def pieceClass : Class :=
  (freshPieceClass.withSetter "sku" .text ⟨.text, true⟩ "sku").withSetter "qty" .int ⟨.int, false⟩ "qty"

def pieceOrderClass : Class :=
  ((Class.ofEntity "Order" 1).withSetter "id" .long ⟨.long, true⟩ "id").withNested "lines" pieceClass (.entity 2)
    (.collection .list 0)

/-- Orders whose lines take a number of pieces, which must not be null. -/
def Mapper.pieceOrders : Mapper :=
  (Mapper.ofClasses ((Class.ofEntity "Orders" 0).withAdder "add" pieceOrderClass (.entity 1)) pieceOrderClass).set
    (.rowFill "setter(colValue)")

theorem pieceOrderClass_plans {field : String} {p : FillPlan} (h : compileFieldPlan field pieceOrderClass = some p) :
    p.nested = none ∧ p.method = (Class.ofEntity "Order" 1).setter "id" .long ⟨.long, true⟩ "id" ∨
      p.nested = pieceOrderClass.nested.head? ∧
        (p.method = freshPieceClass.setter "sku" .text ⟨.text, true⟩ "sku" ∨
          p.method = freshPieceClass.setter "qty" .int ⟨.int, false⟩ "qty") := by
  rcases of_compileFieldPlan h with ⟨hn, hm⟩ | ⟨n, property, hn, hmem, hm⟩
  · exact .inl ⟨hn, List.mem_singleton.1 (mem_of_setterFor? hm)⟩
  · obtain rfl := List.mem_singleton.1 hmem
    refine .inr ⟨hn, ?_⟩
    rcases List.mem_cons.1 (mem_of_setterFor? hm) with hm | hm
    · exact .inl hm
    · exact .inr (List.mem_singleton.1 hm)

theorem pieceOrderClass_storesApart : pieceOrderClass.StoresApart where
  stores := by
    intro field p hp
    rcases pieceOrderClass_plans hp with ⟨-, hm⟩ | ⟨-, hm | hm⟩ <;> rw [hm] <;>
      exact ⟨_, Class.storesInto_setter rfl ..⟩
  apart := by
    intro field field' p q hp hq hne
    have hobject : p.nested = q.nested → p.object? = q.object? := fun h => by rw [FillPlan.object?, h, FillPlan.object?]
    rcases pieceOrderClass_plans hp with ⟨hn, hm⟩ | ⟨hn, hm⟩ <;>
      rcases pieceOrderClass_plans hq with ⟨hn', hm'⟩ | ⟨hn', hm'⟩
    · exact absurd (Prod.ext (hn.trans hn'.symm) (hm.trans hm'.symm)) hne
    · left
      rw [FillPlan.place, FillPlan.place, hn, hn']
      decide
    · left
      rw [FillPlan.place, FillPlan.place, hn, hn']
      decide
    · right
      refine ⟨hobject (hn.trans hn'.symm), ?_⟩
      rcases hm with hm | hm <;> rcases hm' with hm' | hm'
      · exact absurd (Prod.ext (hn.trans hn'.symm) (hm.trans hm'.symm)) hne
      · exact ⟨"sku", "qty", hm ▸ Class.storesInto_setter rfl .., hm' ▸ Class.storesInto_setter rfl .., by decide⟩
      · exact ⟨"qty", "sku", hm ▸ Class.storesInto_setter rfl .., hm' ▸ Class.storesInto_setter rfl .., by decide⟩
      · exact absurd (Prod.ext (hn.trans hn'.symm) (hm.trans hm'.symm)) hne

theorem Class.targetsDiffer_of_names {row : Class} {fields : List (String × Value)}
    (h : (fields.map fun f => (compileFieldPlan f.1 row).map (·.method.name)).Nodup) : row.TargetsDiffer fields := by
  refine (List.pairwise_map.1 h).imp fun hfg p q hp hq htarget => hfg ?_
  rw [hp, hq, Option.map_some, Option.map_some, show p.method = q.method from congrArg Prod.snd htarget]

theorem pieceOrderClass_setters (id qty sku : Value) :
    [("id", id), ("lines.qty", qty), ("lines.sku", sku)].map
        (fun f => (compileFieldPlan f.1 pieceOrderClass).map (·.method.name)) =
      [some "setId", some "setQty", some "setSku"] := by
  have hid : (compileFieldPlan "id" pieceOrderClass).map (·.method.name) = some "setId" := by rfl
  have hqty : (compileFieldPlan "lines.qty" pieceOrderClass).map (·.method.name) = some "setQty" := by rfl
  have hsku : (compileFieldPlan "lines.sku" pieceOrderClass).map (·.method.name) = some "setSku" := by rfl
  simp only [List.map_cons, List.map_nil, hid, hqty, hsku]

theorem pieceOrderClass_targetsDiffer (id qty sku : Value) :
    pieceOrderClass.TargetsDiffer [("id", id), ("lines.qty", qty), ("lines.sku", sku)] := by
  refine Class.targetsDiffer_of_names ?_
  rw [pieceOrderClass_setters]
  decide

/-- **The fields of a record can be filled in any order that passes over the same of them**, not counting those whose
setters take their nulls and leave a fresh element alone: where different setters store apart, it gives the same row, or
fails, as the given order does.  If no collection gets another null as well as another value, these are all orders. -/
theorem Mapping.fillRow_of_perm {m : Mapping} (hm : m.rowFiller = .perField) (hrow : m.row.StoresApart) {r : Record}
    (htargets : m.row.TargetsDiffer r.fields) {mem mem' : FieldMemory} (hmem : mem.Agrees m.row)
    (hmem' : mem'.Agrees m.row) (rowNo rowNo' : Nat) :
    (∀ r' : Record, r.fields.Perm r'.fields →
      (∀ f ∈ r.fields, ¬ m.row.LeavesFresh f →
        (f ∈ m.row.passedOver r.fields ↔ f ∈ m.row.passedOver r'.fields)) →
      (m.fillRow mem rowNo r).2.toOption = (m.fillRow mem' rowNo' r').2.toOption) ∧
    ((∀ f ∈ r.fields, ¬ m.row.LeavesFresh f →
        ∀ k ∈ m.row.nullFor? f, ∀ g ∈ r.fields, m.row.gives k g = false) →
      ∀ r' : Record, r.fields.Perm r'.fields →
        (m.fillRow mem rowNo r).2.toOption = (m.fillRow mem' rowNo' r').2.toOption) := by
  have hsame : ∀ r' : Record, r.fields.Perm r'.fields →
      (∀ f ∈ r.fields, ¬ m.row.LeavesFresh f →
        (f ∈ m.row.passedOver r.fields ↔ f ∈ m.row.passedOver r'.fields)) →
        (m.fillRow mem rowNo r).2.toOption = (m.fillRow mem' rowNo' r').2.toOption := fun r' hperm hpassed => by
    rw [toOption_fillRow hm hrow hmem rowNo htargets, toOption_fillRow hm hrow hmem' rowNo' (htargets.perm hperm)]
    refine Class.storeAll_of_perm hrow (Class.noticed_kept_perm hperm htargets hpassed) ?_ _
    exact htargets.sublist (List.filter_sublist.trans (Class.kept_sublist _))
  refine ⟨hsame, fun hunmixed r' hperm => hsame r' hperm fun f hf hfresh => ?_⟩
  have hgives : ∀ k ∈ m.row.nullFor? f, ∀ g ∈ r'.fields, m.row.gives k g = false :=
    fun k hk g hg => hunmixed f hf hfresh k hk g (hperm.mem_iff.2 hg)
  constructor <;> intro hpassed
  · exact Class.mem_passed_of_unmixed (hperm.mem_iff.1 hf) hgives (Class.passesOver_of_mem_passed hpassed)
  · exact Class.mem_passed_of_unmixed hf (hunmixed f hf hfresh) (Class.passesOver_of_mem_passed hpassed)

/-- **A null that comes first is passed over, and the same null that comes second is refused**: one order of the fields
gives a row, and another one fails. -/
theorem Mapping.fillRow_order_matters :
    ∃ (m : Mapping) (r r' : Record), Mapping.compile Mapper.pieceOrders.config = .ok m ∧ m.rowFiller = .perField ∧
      m.row.StoresApart ∧ m.row.TargetsDiffer r.fields ∧
      r.fields.map (fun f => (compileFieldPlan f.1 m.row).map (·.method.name)) =
        [some "setId", some "setQty", some "setSku"] ∧
      r.fields.Perm r'.fields ∧ (∃ row, (m.fillRow (.empty .normal) 0 r).2 = .ok row) ∧
      (m.fillRow (.empty .normal) 0 r').2 = .error (.row 0 "lines.qty" (.value (.mismatch "int" "null"))) := by
  obtain ⟨m, hm, hper, hclass, hfirst, hsecond⟩ : ∃ m, Mapping.compile Mapper.pieceOrders.config = .ok m ∧
      m.rowFiller = .perField ∧ m.row = pieceOrderClass ∧
      (∃ row, (m.fillRow (.empty .normal) 0
        [("o", .node [("id", .long 7), ("lines.qty", .null), ("lines.sku", .text "A-1")])]).2 = .ok row) ∧
      (m.fillRow (.empty .normal) 0
        [("o", .node [("id", .long 7), ("lines.sku", .text "A-1"), ("lines.qty", .null)])]).2 =
          .error (.row 0 "lines.qty" (.value (.mismatch "int" "null"))) :=
    ⟨_, rfl, rfl, rfl, ⟨_, rfl⟩, rfl⟩
  refine ⟨m, _, _, hm, hper, hclass ▸ pieceOrderClass_storesApart, ?_, ?_, ?_, hfirst, hsecond⟩
  · exact hclass ▸ pieceOrderClass_targetsDiffer _ _ _
  · exact hclass ▸ pieceOrderClass_setters _ _ _
  · exact (List.Perm.swap _ _ _).cons _

/-- A null for the number of pieces that comes before the product in both orders is passed over in both, and without a
null all orders give the same row.  A null for the product of a line, which has none at first, may come anywhere, although
it is passed over in one order and stored in the other. -/
theorem Mapping.fillRow_of_perm_pieces :
    let order (qty : Value) : Record := [("o", .node [("id", .long 7), ("lines.qty", qty), ("lines.sku", .text "A-1")])]
    let null : Record := [("o", .node [("lines.qty", .null), ("lines.sku", .text "A-1"), ("id", .long 7)])]
    let three : Record := [("o", .node [("lines.sku", .text "A-1"), ("lines.qty", .int 3), ("id", .long 7)])]
    let skuFirst : Record := [("o", .node [("lines.sku", .null), ("lines.qty", .int 3), ("id", .long 7)])]
    let skuLast : Record := [("o", .node [("id", .long 7), ("lines.qty", .int 3), ("lines.sku", .null)])]
    ∃ m row row', Mapping.compile Mapper.pieceOrders.config = .ok m ∧ m.rowFiller = .perField ∧ m.row.StoresApart ∧
      (∀ qty, m.row.TargetsDiffer (order qty).fields) ∧
      m.row.passedOver (order .null).fields = [("lines.qty", .null)] ∧
      (m.fillRow (.empty .normal) 0 null).2.toOption = some row ∧
      (m.fillRow (.empty .normal) 0 (order .null)).2.toOption = (m.fillRow (.empty .normal) 0 null).2.toOption ∧
      (m.fillRow (.empty .normal) 0 (order (.int 3))).2.toOption =
        (m.fillRow (.empty .normal) 0 three).2.toOption ∧
      m.row.TargetsDiffer skuLast.fields ∧ m.row.LeavesFresh ("lines.sku", .null) ∧
      m.row.passedOver skuLast.fields = [] ∧ m.row.passedOver skuFirst.fields = [("lines.sku", .null)] ∧
      (m.fillRow (.empty .normal) 0 skuFirst).2.toOption = some row' ∧
      (m.fillRow (.empty .normal) 0 skuLast).2.toOption = (m.fillRow (.empty .normal) 0 skuFirst).2.toOption := by
  intro order null three skuFirst skuLast
  obtain ⟨m, row, row', hm, hper, hclass, hrow, hrow'⟩ : ∃ m row row',
      Mapping.compile Mapper.pieceOrders.config = .ok m ∧ m.rowFiller = .perField ∧ m.row = pieceOrderClass ∧
      (m.fillRow (.empty .normal) 0
        [("o", .node [("lines.qty", .null), ("lines.sku", .text "A-1"), ("id", .long 7)])]).2.toOption = some row ∧
      (m.fillRow (.empty .normal) 0
        [("o", .node [("lines.sku", .null), ("lines.qty", .int 3), ("id", .long 7)])]).2.toOption = some row' :=
    ⟨_, _, _, rfl, rfl, rfl, rfl, rfl⟩
  have htargets (qty sku : Value) : m.row.TargetsDiffer [("id", .long 7), ("lines.qty", qty), ("lines.sku", sku)] :=
    hclass ▸ pieceOrderClass_targetsDiffer _ qty sku
  have horder (qty : Value) : m.row.TargetsDiffer (order qty).fields := htargets qty _
  have hskuLast : m.row.TargetsDiffer skuLast.fields := htargets _ _
  have hapart : m.row.StoresApart := hclass ▸ pieceOrderClass_storesApart
  have hempty : (FieldMemory.empty .normal).Agrees m.row := FieldMemory.agrees_empty _ _
  have hpassed : m.row.passedOver [("id", .long 7), ("lines.qty", .null), ("lines.sku", .text "A-1")] =
      [("lines.qty", .null)] := hclass ▸ rfl
  have hpassed' : m.row.passedOver [("lines.qty", .null), ("lines.sku", .text "A-1"), ("id", .long 7)] =
      [("lines.qty", .null)] := hclass ▸ rfl
  have hfirst : m.row.passedOver [("lines.sku", .null), ("lines.qty", .int 3), ("id", .long 7)] =
      [("lines.sku", .null)] := hclass ▸ rfl
  have hlast : m.row.passedOver [("id", .long 7), ("lines.qty", .int 3), ("lines.sku", .null)] = [] := hclass ▸ rfl
  have hfresh : m.row.LeavesFresh ("lines.sku", .null) := hclass ▸ ⟨_, _, .null, rfl, rfl, rfl, rfl⟩
  have hid : m.row.nullFor? ("id", .long 7) = none := hclass ▸ rfl
  have hqty : m.row.nullFor? ("lines.qty", .int 3) = none := hclass ▸ rfl
  have hsku : m.row.nullFor? ("lines.sku", .text "A-1") = none := hclass ▸ rfl
  refine ⟨m, row, row', hm, hper, hapart, horder, hpassed, hrow, ?_, ?_, hskuLast, hfresh, hlast, hfirst, hrow', ?_⟩
  · refine (fillRow_of_perm hper hapart (horder .null) hempty hempty 0 0).1 null ?_ fun f _ _ => ?_
    · exact ((List.Perm.swap _ _ _).trans ((List.Perm.swap _ _ _).cons _))
    · exact .of_eq (congrArg (f ∈ ·) (hpassed.trans hpassed'.symm))
  · refine (fillRow_of_perm hper hapart (horder (.int 3)) hempty hempty 0 0).2 (fun f hf _ k hk => ?_) three ?_
    · have hnone : ∀ f ∈ [("id", .long 7), ("lines.qty", .int 3), ("lines.sku", .text "A-1")],
          m.row.nullFor? f = none := by simp [hid, hqty, hsku]
      have hnull : m.row.nullFor? f = none := hnone f hf
      rw [hnull] at hk
      cases hk
    · exact (((List.Perm.swap _ _ _).cons _).trans (List.Perm.swap _ _ _)).trans ((List.Perm.swap _ _ _).cons _)
  · refine (fillRow_of_perm hper hapart hskuLast hempty hempty 0 0).1 skuFirst ?_ fun f hf hnot => ?_
    · exact (((List.Perm.swap _ _ _).cons _).trans (List.Perm.swap _ _ _)).trans ((List.Perm.swap _ _ _).cons _)
    · have hne : f ≠ ("lines.sku", .null) := fun h => hnot (h ▸ hfresh)
      have hout : f ∉ m.row.passedOver skuFirst.fields := fun h => hne (List.mem_singleton.1 (hfirst ▸ h))
      have hout' : f ∉ m.row.passedOver skuLast.fields := fun h => absurd (hlast ▸ h) List.not_mem_nil
      exact iff_of_false hout' hout

end QueryRows
