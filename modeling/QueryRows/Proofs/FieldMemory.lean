import QueryRows.Mapping.Run
import QueryRows.Proofs.CachedRules
/-!
# FieldMemory — what a mapping remembers changes nothing

A memory agrees with a class when every plan it holds is the one that compiling the field anew would give, and every
rule is for the kind of that plan (`FieldMemory.Agrees`).  Fields, rows and whole runs come out of an agreeing memory
as they do without any (`fillField_snd`, `mapRecords_snd`), and the memory afterwards agrees again.
-/
namespace QueryRows

/-- The kind that a field is converted to: the one its setter declares. -/
def fieldKind? (row : Class) (field : String) : Option Kind := (compileFieldPlan field row).map FillPlan.targetKind

/-- **A memory agrees with a class**: its plans are the fields' plans and its rules are for their kinds. -/
structure FieldMemory.Agrees (mem : FieldMemory) (row : Class) : Prop where
  plans : ∀ field plan, mem.plans.lookup field = some plan → plan = compileFieldPlan field row
  rules : mem.coercions.Follows (fieldKind? row)

namespace FieldMemory

variable {mem : FieldMemory} {row : Class}

theorem agrees_empty (style : NameStyle) (row : Class) : (empty style).Agrees row :=
  ⟨fun _ _ h => (nomatch h), CoercionCache.follows_empty _⟩

theorem Agrees.observe (h : mem.Agrees row) (field : String) : (mem.observe field).Agrees row := by
  unfold FieldMemory.observe
  split
  · exact h
  · exact ⟨h.plans, h.rules⟩

theorem Agrees.planFor_fst (h : mem.Agrees row) (field : String) :
    (mem.planFor row field).1 = compileFieldPlan field row := by
  unfold planFor
  split
  · rename_i plan hp
    exact h.plans field plan hp
  · rfl

theorem Agrees.planFor_snd (h : mem.Agrees row) (field : String) : (mem.planFor row field).2.Agrees row := by
  unfold planFor
  split
  · exact h
  · refine ⟨fun other plan hp => ?_, h.rules⟩
    rcases lookup_append_singleton hp with hp | ⟨rfl, rfl⟩
    · exact h.plans other plan hp
    · rfl

theorem Agrees.withCoercions (h : mem.Agrees row) {coercions : CoercionCache}
    (hc : coercions.Follows (fieldKind? row)) : Agrees { mem with coercions } row := ⟨h.plans, hc⟩

end FieldMemory

namespace Mapping

/-! ### Mapping without a memory -/

/-- One field filled into a row by a plan and a rule worked out for it alone. -/
def fillFieldAnew (m : Mapping) (rowNo : Nat) (row : Obj) (field : String) (v : Value) : Except MappingError Obj :=
  match m.rowFiller with
  | .fixed plan =>
    match plan.invokeRow row field v with
    | .ok row' => .ok row'
    | .error e => .error (.row rowNo field e)
  | .perField =>
    match compileFieldPlan field m.row with
    | none => .ok row
    | some plan =>
      match coerce v plan.targetKind with
      | .error e => .error (.row rowNo field (.coercion e))
      | .ok v' =>
        match plan.invokeField row v' with
        | (row', .ok ()) => .ok row'
        | (_, .error e) => .error (.row rowNo field e)

def fillFieldsAnew (m : Mapping) (rowNo : Nat) (row : Obj) : List (String × Value) → Except MappingError Obj
  | [] => .ok row
  | (field, v) :: fields =>
    match m.fillFieldAnew rowNo row field v with
    | .ok row' => m.fillFieldsAnew rowNo row' fields
    | .error e => .error e

/-- **The row of a record by itself**: a fresh row filled as if no other record had been mapped. -/
def fillRowAnew (m : Mapping) (rowNo : Nat) (r : Record) : Except MappingError Obj :=
  m.fillFieldsAnew rowNo m.row.instantiate r.fields

/-- Numbered records mapped onto what is there already, each row filled by itself. -/
def mapRecordsAnew (m : Mapping) (a : Assembly) : List (Nat × Record) → Except MappingError Assembly
  | [] => m.finish a
  | (rowNo, record) :: records =>
    match m.fillRowAnew rowNo record with
    | .error e => .error e
    | .ok row =>
      match m.takeRow a row rowNo with
      | .ok a' => m.mapRecordsAnew a' records
      | .error e => .error e

/-! ### Mapping with an agreeing memory -/

variable (m : Mapping) {mem : FieldMemory}

/-- **An agreeing memory fills a field as no memory does**, and agrees afterwards. -/
theorem fillField_agrees (h : mem.Agrees m.row) (rowNo : Nat) (row : Obj) (field : String) (v : Value) :
    (m.fillField mem rowNo row field v).2 = m.fillFieldAnew rowNo row field v ∧
      (m.fillField mem rowNo row field v).1.Agrees m.row := by
  have hseen := h.observe field
  unfold fillField fillFieldAnew
  cases m.rowFiller with
  | fixed plan => cases hi : plan.invokeRow row field v <;> simp [hi, hseen]
  | perField =>
    have hfst := hseen.planFor_fst field
    have hsnd := hseen.planFor_snd field
    rcases hp : (mem.observe field).planFor m.row field with ⟨found, mem'⟩
    rw [hp] at hfst hsnd
    simp only at hfst hsnd
    simp only [hp, ← hfst]
    cases found with
    | none => exact ⟨rfl, hsnd⟩
    | some plan =>
      have hkind : fieldKind? m.row field = some plan.targetKind := by rw [fieldKind?, ← hfst]; rfl
      have hv := hsnd.rules.coerce_fst hkind v
      have hrules := hsnd.rules.coerce_snd hkind v
      rcases hc : mem'.coercions.coerce field v plan.targetKind with ⟨converted, coercions⟩
      rw [hc] at hv hrules
      simp only at hv hrules
      simp only [hc, ← hv]
      cases converted with
      | error e => exact ⟨rfl, hsnd.withCoercions hrules⟩
      | ok v' =>
        rcases hi : plan.invokeField row v' with ⟨row', e | _⟩ <;>
          exact ⟨by simp only [hi], by simpa only [hi] using hsnd.withCoercions hrules⟩

theorem fillFields_agrees (rowNo : Nat) : ∀ (fields : List (String × Value)) {mem : FieldMemory} (row : Obj),
    mem.Agrees m.row →
      (m.fillFields mem rowNo row fields).2 = m.fillFieldsAnew rowNo row fields ∧
        (m.fillFields mem rowNo row fields).1.Agrees m.row
  | [], _, _, h => ⟨rfl, h⟩
  | (field, v) :: fields, mem, row, h => by
    obtain ⟨hrow, hmem⟩ := m.fillField_agrees h rowNo row field v
    rw [fillFields, fillFieldsAnew, ← hrow]
    rcases hf : m.fillField mem rowNo row field v with ⟨mem', e | row'⟩
    · rw [hf] at hmem
      exact ⟨rfl, hmem⟩
    · rw [hf] at hmem
      exact fillFields_agrees rowNo fields row' hmem

/-- **The row of a record does not depend on the records before it.** -/
theorem fillRow_agrees (h : mem.Agrees m.row) (rowNo : Nat) (r : Record) :
    (m.fillRow mem rowNo r).2 = m.fillRowAnew rowNo r ∧ (m.fillRow mem rowNo r).1.Agrees m.row :=
  m.fillFields_agrees rowNo r.fields m.row.instantiate h

/-- **A run from an agreeing memory comes out as one without**, and agrees wherever it ends. -/
theorem mapRecords_agrees : ∀ (records : List (Nat × Record)) {mem : FieldMemory} (a : Assembly),
    mem.Agrees m.row →
      (m.mapRecords mem a records).2 = m.mapRecordsAnew a records ∧ (m.mapRecords mem a records).1.Agrees m.row
  | [], _, _, h => ⟨rfl, h⟩
  | (rowNo, record) :: records, mem, a, h => by
    obtain ⟨hrow, hmem⟩ := m.fillRow_agrees h rowNo record
    rw [mapRecords, mapRecordsAnew, ← hrow]
    rcases hf : m.fillRow mem rowNo record with ⟨mem', e | row⟩
    · rw [hf] at hmem
      exact ⟨rfl, hmem⟩
    · rw [hf] at hmem
      simp only
      cases m.takeRow a row rowNo with
      | error e => exact ⟨rfl, hmem⟩
      | ok a' => exact mapRecords_agrees records a' hmem

end Mapping

end QueryRows
