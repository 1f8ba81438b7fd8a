import QueryRows.Mapper
import QueryRows.Class.Builder
import QueryRows.Proofs.FieldMemory
import QueryRows.Proofs.Results
/-!
# History — what a mapper has been through does not show in its tables

A mapper is reached by changing choices, preparing and running, where runs may fail at any record (`Mapper.Reachable`).
What is compiled in it is then the compilation of its present configuration, with a memory that agrees
(`Mapper.Current`).  So two mappers of one configuration make the same table of the same records, or fail alike
(`run_eq_of_config_eq`).
-/
namespace QueryRows

inductive MapperCall where
  | set (s : Setting)
  | prepare
  | run (records : List Record) (start size : Nat)

/-- The table and the number of its rows that a configuration makes of the records of a window, or the failure. -/
def MappingConfig.outcome (c : MappingConfig) (records : List Record) (start size : Nat) :
    Except MappingError (Obj × Nat) :=
  match Mapping.compile c with
  | .error e => .error (.compile e)
  | .ok m => (m.mapRecordsAnew m.start (windowed start size records)).map fun a => (a.table, a.added)

def MappedTable.filled (t : MappedTable) : Obj × Nat := (t.table, t.rowCount)

/-- **What a compiled configuration has** is what the configuration says. -/
structure Mapping.CompiledFrom (m : Mapping) (c : MappingConfig) : Prop where
  table : c.table = some m.table
  row : c.row = some m.row
  tablePlan : compileTableFiller (c.fill.getD MappingConfig.defaultFill) m.table m.row = .ok m.tablePlan
  rowFiller : compileRowFiller (c.rowFill.getD MappingConfig.defaultRowFill) m.row = .ok m.rowFiller
  relation : compileRelation m.row c.relationKeys = .ok m.relation

namespace Mapping

theorem eq_some_of_requireClass {part : RequiredClass} {given : Option Class} {c : Class}
    (h : requireClass part given = .ok c) : given = some c := by
  cases given with
  | none => cases h
  | some c' =>
    cases h
    rfl

theorem compiledFrom {m : Mapping} {c : MappingConfig} (h : compile c = .ok m) : m.CompiledFrom c := by
  obtain ⟨table, htable, h⟩ := bind_eq_ok h
  obtain ⟨row, hrow, h⟩ := bind_eq_ok h
  obtain ⟨tablePlan, hplan, h⟩ := bind_eq_ok h
  obtain ⟨rowFiller, hfiller, h⟩ := bind_eq_ok h
  obtain ⟨relation, hrelation, h⟩ := bind_eq_ok h
  cases h
  exact ⟨eq_some_of_requireClass htable, eq_some_of_requireClass hrow, hplan, hfiller, hrelation⟩

end Mapping

namespace Mapper

/-- The mapper after a call, whatever comes of the call. -/
def after (m : Mapper) : MapperCall → Mapper
  | .set s => m.set s
  | .prepare => m.prepare.1
  | .run records start size => (m.run records start size).1

def afterAll (m : Mapper) (calls : List MapperCall) : Mapper := calls.foldl after m

/-- **The mappers that calls lead to**, from the one for which nothing is chosen. -/
def Reachable (m : Mapper) : Prop := ∃ calls, m = empty.afterAll calls

/-- **What is compiled is the present configuration**, and the memory agrees with its row class. -/
def Current (m : Mapper) : Prop :=
  ∀ c, m.compiled = some c → Mapping.compile m.config = .ok c.mapping ∧ c.memory.Agrees c.mapping.row

variable {m : Mapper}

theorem current_of_compiled_none (h : m.compiled = none) : m.Current := fun c hc => by
  rw [h] at hc
  cases hc

/-- A compilation, kept or new, is the one of the configuration. -/
theorem Current.compile_ok (h : m.Current) {c : CompiledMapping} {m' : Mapper} (hc : m.compile = .ok (c, m')) :
    (Mapping.compile m.config = .ok c.mapping ∧ c.memory.Agrees c.mapping.row) ∧
      m'.config = m.config ∧ m'.compiled = some c := by
  unfold Mapper.compile at hc
  split at hc
  · rename_i c' hc'
    cases hc
    exact ⟨h c hc', rfl, hc'⟩
  · split at hc
    · cases hc
    · rename_i mapping hmapping
      cases hc
      exact ⟨⟨hmapping, FieldMemory.agrees_empty _ _⟩, rfl, rfl⟩

theorem compile_error {e : CompileError} (hc : m.compile = .error e) : Mapping.compile m.config = .error e := by
  unfold Mapper.compile at hc
  split at hc
  · cases hc
  · split at hc
    · rename_i e' he
      cases hc
      exact he
    · cases hc

theorem Current.prepare (h : m.Current) : m.prepare.1.Current := by
  unfold Mapper.prepare
  cases hc : m.compile with
  | error e => exact h
  | ok p =>
    obtain ⟨hmapping, hconfig, hcompiled⟩ := h.compile_ok hc
    intro c' hc'
    rw [hcompiled] at hc'
    cases hc'
    rw [hconfig]
    exact hmapping

/-- **A run comes out as the configuration says**, and leaves a current mapper, also when it fails. -/
theorem Current.run (h : m.Current) (records : List Record) (start size : Nat) :
    (m.run records start size).2.map MappedTable.filled = m.config.outcome records start size ∧
      (m.run records start size).1.Current := by
  unfold Mapper.run MappingConfig.outcome
  cases hc : m.compile with
  | error e =>
    rw [compile_error hc]
    exact ⟨rfl, h⟩
  | ok p =>
    obtain ⟨c, m'⟩ := p
    obtain ⟨⟨hmapping, hagrees⟩, hconfig, -⟩ := h.compile_ok hc
    obtain ⟨hout, hmem⟩ := c.mapping.mapRecords_agrees (windowed start size records) c.mapping.start hagrees
    rw [hmapping]
    simp only [Mapping.run, ← hout]
    refine ⟨?_, fun c' hc' => ?_⟩
    · cases (c.mapping.mapRecords c.memory c.mapping.start (windowed start size records)).2 <;> rfl
    · cases hc'
      exact ⟨by rw [hconfig]; exact hmapping, hmem⟩

theorem Current.after (h : m.Current) : ∀ call, (m.after call).Current
  | .set _ => current_of_compiled_none rfl
  | .prepare => h.prepare
  | .run records start size => (h.run records start size).2

theorem Current.afterAll : ∀ (calls : List MapperCall) {m : Mapper}, m.Current → (m.afterAll calls).Current
  | [], _, h => h
  | call :: calls, _, h => Current.afterAll calls (h.after call)

/-- **Every mapper that calls lead to is current.** -/
theorem Reachable.current (h : m.Reachable) : m.Current := by
  obtain ⟨calls, rfl⟩ := h
  exact Current.afterAll calls (current_of_compiled_none rfl)

/-- **Two mappers of one configuration make the same table and number of rows of the same records, or fail alike**,
whatever was done with them before. -/
theorem run_eq_of_config_eq {m₁ m₂ : Mapper} (h₁ : m₁.Reachable) (h₂ : m₂.Reachable) (h : m₁.config = m₂.config)
    (records : List Record) (start size : Nat) :
    (m₁.run records start size).2.map MappedTable.filled = (m₂.run records start size).2.map MappedTable.filled := by
  rw [(h₁.current.run records start size).1, (h₂.current.run records start size).1, h]

end Mapper

/-! ### Orders with their lines -/

def lineClass : Class := (Class.ofEntity "Line" 2).withSetter "sku" .text ⟨.text, true⟩ "sku"

def orderClass : Class :=
  let withId := ((Class.ofEntity "Order" 1).withSetter "id" .long ⟨.long, true⟩ "id").withGetter "id" .long true "id" .null
  withId.withNested "lines" lineClass (.entity 2) (.collection .list 0)

def orderListClass : Class := (Class.ofEntity "Orders" 0).withAdder "add" orderClass (.entity 1)

/-- Orders, every field of which goes to its own setter. -/
def Mapper.orders : Mapper := (Mapper.ofClasses orderListClass orderClass).set (.rowFill "setter(colValue)")

/-- A text that is no number ends a run and leaves a rule for texts; numbers are mapped afterwards as if it had not. -/
theorem Mapper.run_eq_of_config_eq_orders :
    let records : List Record := [[("o", .node [("id", .long 7), ("lines.sku", .text "a")])]]
    let failed := orders.after (.run [[("o", .node [("id", .text "x")])]] 0 0)
    failed.resolutions = 1 ∧ orders.resolutions = 0 ∧ failed.Reachable ∧ orders.Reachable ∧
      failed.config = orders.config ∧
      (failed.run records 0 0).2.map MappedTable.filled = (orders.run records 0 0).2.map MappedTable.filled := by
  intro records failed
  have hchosen : orders.Reachable :=
    ⟨[.set (.table orderListClass), .set (.row orderClass), .set (.rowFill "setter(colValue)")], rfl⟩
  have hfailed : failed.Reachable :=
    ⟨[.set (.table orderListClass), .set (.row orderClass), .set (.rowFill "setter(colValue)"),
      .run [[("o", .node [("id", .text "x")])]] 0 0], rfl⟩
  have hconfig : failed.config = orders.config := by rfl
  exact ⟨by rfl, by rfl, hfailed, hchosen, hconfig, run_eq_of_config_eq hfailed hchosen hconfig records 0 0⟩

end QueryRows
