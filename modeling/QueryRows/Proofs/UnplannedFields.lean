import Mathlib.Data.List.Forall2
import QueryRows.Proofs.History
import QueryRows.Proofs.PerField
/-!
# UnplannedFields — fields that no setter takes leave no trace

A field without a plan is noted as a column and otherwise passed over.  Two runs over records that differ in such fields
alone therefore go in step: their memories hold the same rules (`FieldMemory.Alike`), their rows are the same, and they
fail alike (`run_of_leavesOut`).
-/
namespace QueryRows

/-- **Fields with some of those left out that no setter takes**; all others are kept, in their order. -/
inductive Class.LeavesOut (row : Class) : List (String × Value) → List (String × Value) → Prop
  | nil : LeavesOut row [] []
  | kept {field : String} {v : Value} {fields fields' : List (String × Value)} :
    LeavesOut row fields fields' → LeavesOut row ((field, v) :: fields) ((field, v) :: fields')
  | leftOut {field : String} {v : Value} {fields fields' : List (String × Value)} :
    compileFieldPlan field row = none → LeavesOut row fields fields' → LeavesOut row ((field, v) :: fields) fields'

/-- A record with some of the fields left out that no setter takes; mapping looks at the fields of a record alone. -/
def Class.LeavesOutOf (row : Class) (r r' : Record) : Prop := row.LeavesOut r.fields r'.fields

/-- **Two memories that convert alike**: both agree with a class, and they hold the same rules. -/
structure FieldMemory.Alike (row : Class) (mem mem' : FieldMemory) : Prop where
  left : mem.Agrees row
  right : mem'.Agrees row
  rules : mem.coercions = mem'.coercions

namespace FieldMemory

theorem coercions_observe (mem : FieldMemory) (field : String) : (mem.observe field).coercions = mem.coercions := by
  unfold observe
  split <;> rfl

theorem coercions_planFor (mem : FieldMemory) (row : Class) (field : String) :
    (mem.planFor row field).2.coercions = mem.coercions := by
  unfold planFor
  split <;> rfl

end FieldMemory

namespace Mapping

variable {m : Mapping}

/-! ### One field -/

/-- **The rules after a field**: only converting its value may have added one. -/
theorem coercions_fillField (hm : m.rowFiller = .perField) {mem : FieldMemory} (h : mem.Agrees m.row) (rowNo : Nat)
    (row : Obj) (field : String) (v : Value) :
    (m.fillField mem rowNo row field v).1.coercions = match compileFieldPlan field m.row with
      | none => mem.coercions
      | some p => (mem.coercions.coerce field v p.targetKind).2 := by
  have hplan := (h.observe field).planFor_fst field
  have hrules := (FieldMemory.coercions_planFor (mem.observe field) m.row field).trans (mem.coercions_observe field)
  rcases hp : (mem.observe field).planFor m.row field with ⟨found, mem'⟩
  rw [hp] at hplan hrules
  simp only [fillField, hm, hp, ← hplan]
  cases found with
  | none => exact hrules
  | some p =>
    simp only at hrules ⊢
    rw [hrules]
    rcases mem.coercions.coerce field v p.targetKind with ⟨err | v', coercions⟩
    · rfl
    · rcases hi : p.invokeField row v' with ⟨row', err | _⟩ <;> simp only [hi]

/-- **The same field goes into a row alike**, and the memories go on converting alike. -/
theorem fillField_of_alike (hm : m.rowFiller = .perField) {mem mem' : FieldMemory} (h : mem.Alike m.row mem')
    (rowNo : Nat) (row : Obj) (field : String) (v : Value) :
    (m.fillField mem rowNo row field v).2 = (m.fillField mem' rowNo row field v).2 ∧
      (m.fillField mem rowNo row field v).1.Alike m.row (m.fillField mem' rowNo row field v).1 := by
  obtain ⟨hrow, hagrees⟩ := m.fillField_agrees h.left rowNo row field v
  obtain ⟨hrow', hagrees'⟩ := m.fillField_agrees h.right rowNo row field v
  refine ⟨hrow.trans hrow'.symm, hagrees, hagrees', ?_⟩
  rw [coercions_fillField hm h.left, coercions_fillField hm h.right, h.rules]

/-- **A field without a plan** leaves the row as it is, and the rules. -/
theorem fillField_of_unplanned (hm : m.rowFiller = .perField) {mem mem' : FieldMemory} (h : mem.Alike m.row mem')
    {field : String} (hfield : compileFieldPlan field m.row = none) (rowNo : Nat) (row : Obj) (v : Value) :
    (m.fillField mem rowNo row field v).2 = .ok row ∧ (m.fillField mem rowNo row field v).1.Alike m.row mem' := by
  obtain ⟨hrow, hagrees⟩ := m.fillField_agrees h.left rowNo row field v
  refine ⟨?_, hagrees, h.right, ?_⟩
  · rw [hrow]
    exact (fillFieldAnew_eq_ok_iff hm).2 (.inl ⟨hfield, rfl⟩)
  · rw [coercions_fillField hm h.left, hfield]
    exact h.rules

/-! ### Rows and runs -/

theorem fillFields_of_leavesOut (hm : m.rowFiller = .perField) {fields fields' : List (String × Value)}
    (h : m.row.LeavesOut fields fields') (rowNo : Nat) : ∀ {mem mem' : FieldMemory} (row : Obj), mem.Alike m.row mem' →
      (m.fillFields mem rowNo row fields).2 = (m.fillFields mem' rowNo row fields').2 ∧
        (m.fillFields mem rowNo row fields).1.Alike m.row (m.fillFields mem' rowNo row fields').1 := by
  induction h with
  | nil => exact fun row halike => ⟨rfl, halike⟩
  | @kept field v fields fields' _ ih =>
    intro mem mem' row halike
    obtain ⟨hrow, hnext⟩ := fillField_of_alike hm halike rowNo row field v
    rw [fillFields, fillFields]
    rcases hf : m.fillField mem rowNo row field v with ⟨next, err | row'⟩ <;>
      rcases hf' : m.fillField mem' rowNo row field v with ⟨next', err' | row''⟩ <;> rw [hf, hf'] at hrow hnext
    · exact ⟨by simpa using hrow, hnext⟩
    · cases hrow
    · cases hrow
    · cases hrow
      exact ih row' hnext
  | @leftOut field v fields fields' hfield _ ih =>
    intro mem mem' row halike
    obtain ⟨hrow, hnext⟩ := fillField_of_unplanned hm halike hfield rowNo row v
    rw [fillFields]
    rcases hf : m.fillField mem rowNo row field v with ⟨next, err | row'⟩ <;> rw [hf] at hrow hnext
    · cases hrow
    · cases hrow
      exact ih row hnext

/-- **Runs over records that differ in such fields go in step**: they come out alike, and so do their memories. -/
theorem mapRecords_of_leavesOut (hm : m.rowFiller = .perField) {records records' : List (Nat × Record)}
    (h : List.Forall₂ (fun p p' => p.1 = p'.1 ∧ m.row.LeavesOutOf p.2 p'.2) records records') :
    ∀ {mem mem' : FieldMemory} (a : Assembly), mem.Alike m.row mem' →
      (m.mapRecords mem a records).2 = (m.mapRecords mem' a records').2 ∧
        (m.mapRecords mem a records).1.Alike m.row (m.mapRecords mem' a records').1 := by
  induction h with
  | nil => exact fun a halike => ⟨rfl, halike⟩
  | @cons p p' records records' hp _ ih =>
    intro mem mem' a halike
    obtain ⟨rowNo, r⟩ := p
    obtain ⟨rowNo', r'⟩ := p'
    obtain ⟨rfl, hfields⟩ := hp
    obtain ⟨hrow, hnext⟩ := fillFields_of_leavesOut hm hfields rowNo m.row.instantiate halike
    rw [mapRecords, mapRecords, fillRow, fillRow]
    rcases hf : m.fillFields mem rowNo m.row.instantiate r.fields with ⟨next, err | row⟩ <;>
      rcases hf' : m.fillFields mem' rowNo m.row.instantiate r'.fields with ⟨next', err' | row'⟩ <;>
      rw [hf, hf'] at hrow hnext
    · exact ⟨by simpa using hrow, hnext⟩
    · cases hrow
    · cases hrow
    · cases hrow
      simp only
      cases m.takeRow a row rowNo with
      | error err => exact ⟨rfl, hnext⟩
      | ok a' => exact ih a' hnext

end Mapping

theorem forall₂_numberFrom {α : Type} {R : α → α → Prop} {xs ys : List α} (h : List.Forall₂ R xs ys) :
    ∀ n, List.Forall₂ (fun p q => p.1 = q.1 ∧ R p.2 q.2) (numberFrom n xs) (numberFrom n ys) := by
  induction h with
  | nil => exact fun _ => .nil
  | cons hxy _ ih => exact fun n => .cons ⟨rfl, hxy⟩ (ih (n + 1))

/-- Windows of lists that agree element by element have the same ordinals. -/
theorem forall₂_windowed {α : Type} {R : α → α → Prop} {xs ys : List α} (h : List.Forall₂ R xs ys) (start size : Nat) :
    List.Forall₂ (fun p q => p.1 = q.1 ∧ R p.2 q.2) (windowed start size xs) (windowed start size ys) := by
  unfold windowed
  split
  · exact forall₂_numberFrom h 0
  · exact forall₂_numberFrom (List.forall₂_take size (List.forall₂_drop start h)) start

/-- **Fields that no setter takes leave no trace**: where every field goes to its own setter, records with some of these
left out make the same table with the same number of rows, or fail with the same error, and the mapper has been compiled
as often and has resolved as many rules. -/
theorem Mapper.run_of_leavesOut {m : Mapper} (hm : m.Reachable) {row : Class} (hrow : m.config.row = some row)
    (hfiller : compileRowFiller (m.config.rowFill.getD MappingConfig.defaultRowFill) row = .ok .perField)
    {records records' : List Record} (h : List.Forall₂ row.LeavesOutOf records records') (start size : Nat) :
    (m.run records' start size).2.map MappedTable.filled = (m.run records start size).2.map MappedTable.filled ∧
      (m.run records' start size).1.compilations = (m.run records start size).1.compilations ∧
      (m.run records' start size).1.resolutions = (m.run records start size).1.resolutions := by
  unfold Mapper.run
  cases hc : m.compile with
  | error e => exact ⟨rfl, rfl, rfl⟩
  | ok p =>
    obtain ⟨c, m'⟩ := p
    obtain ⟨⟨hmapping, hagrees⟩, -, -⟩ := hm.current.compile_ok hc
    obtain ⟨-, hrow', -, hfiller', -⟩ := Mapping.compiledFrom hmapping
    rw [hrow, Option.some.injEq] at hrow'
    subst hrow'
    have hper : c.mapping.rowFiller = .perField := by
      rw [hfiller, Except.ok.injEq] at hfiller'
      exact hfiller'.symm
    obtain ⟨hout, halike⟩ := Mapping.mapRecords_of_leavesOut hper (forall₂_windowed h start size) c.mapping.start
      (⟨hagrees, hagrees, rfl⟩ : c.memory.Alike c.mapping.row c.memory)
    refine ⟨?_, rfl, ?_⟩
    · simp only [Mapping.run, hout]
      cases (c.mapping.mapRecords c.memory c.mapping.start (windowed start size records')).2 <;> rfl
    · simp only [Mapping.run, Mapper.resolutions, halike.rules]

/-- The colour and the size of an order have no setter, and neither has the price of its lines: the order is the same
without them, and so is the failure of a number that is none, in the second record of the window. -/
theorem Mapper.run_of_leavesOut_orders :
    let order : Record := [("o", .node [("colour", .text "red"), ("id", .long 7), ("lines.price", .long 3)])]
    let bare : Record := [("o", .node [("id", .long 7)])]
    let wrong : Record := [("size", .scalar (.long 4)), ("id", .scalar (.text "x"))]
    orders.Reachable ∧ orders.config.row = some orderClass ∧
      compileRowFiller (orders.config.rowFill.getD MappingConfig.defaultRowFill) orderClass = .ok .perField ∧
      orderClass.LeavesOutOf order bare ∧
      (orders.run [bare] 0 0).2.map MappedTable.filled = (orders.run [order] 0 0).2.map MappedTable.filled ∧
      (∃ cause, (orders.run [order, order, wrong] 1 2).2 = .error (.row 2 "id" cause)) ∧
      (orders.run [order, bare, wrong.tail] 1 2).2.map MappedTable.filled =
        (orders.run [order, order, wrong] 1 2).2.map MappedTable.filled := by
  intro order bare wrong
  have hreachable : orders.Reachable :=
    ⟨[.set (.table orderListClass), .set (.row orderClass), .set (.rowFill "setter(colValue)")], rfl⟩
  have hfiller : compileRowFiller (orders.config.rowFill.getD MappingConfig.defaultRowFill) orderClass =
      .ok .perField := by rfl
  have horder : orderClass.LeavesOutOf order bare := .leftOut (by rfl) (.kept (.leftOut (by rfl) .nil))
  have hsame : orderClass.LeavesOutOf order order := .kept (.kept (.kept .nil))
  have hwrong : orderClass.LeavesOutOf wrong wrong.tail := .leftOut (by rfl) (.kept .nil)
  refine ⟨hreachable, rfl, hfiller, horder, ?_, ⟨_, rfl⟩, ?_⟩
  · exact (run_of_leavesOut hreachable rfl hfiller (.cons horder .nil) 0 0).1
  · exact (run_of_leavesOut hreachable rfl hfiller (.cons hsame (.cons horder (.cons hwrong .nil))) 1 2).1

end QueryRows
