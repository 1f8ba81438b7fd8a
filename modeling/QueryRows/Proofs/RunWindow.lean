import QueryRows.Mapper
/-!
# RunWindow — a run over a window is a run over its records

The records outside a window have no part in a run: mapping a window is mapping the list of its records from the
first to the last, except that an error names a record by its place among all records (`run_window`).  The rows that
wait carry such places too, so the two runs go in step with all of them moved by the start (`mapRecords_later`).
-/
namespace QueryRows

/-- The same error about a record that stands `d` places later. -/
def MappingError.later (d : Nat) : MappingError → MappingError
  | .compile e => .compile e
  | .row rowNo field cause => .row (rowNo + d) field cause
  | .table rowNo cause => .table (rowNo + d) cause

def PendingRow.later (d : Nat) (p : PendingRow) : PendingRow := { p with rowNo := p.rowNo + d }

/-- The same table, whose waiting row came from a record `d` places later. -/
def Assembly.later (d : Nat) (a : Assembly) : Assembly := { a with pending := a.pending.map (PendingRow.later d) }

def laterOutcome (d : Nat) : Except MappingError Assembly → Except MappingError Assembly
  | .ok a => .ok (a.later d)
  | .error e => .error (e.later d)

/-! ### Places -/

theorem numberFrom_add {α : Type} (d : Nat) : ∀ (xs : List α) (n : Nat),
    numberFrom (n + d) xs = (numberFrom n xs).map fun p => (p.1 + d, p.2)
  | [], _ => rfl
  | x :: xs, n => by
    rw [numberFrom, numberFrom, List.map_cons, Nat.add_right_comm, numberFrom_add d xs (n + 1)]

theorem mem_numberFrom {α : Type} {p : Nat × α} : ∀ {xs : List α} {n : Nat},
    p ∈ numberFrom n xs → n ≤ p.1 ∧ p.1 < n + xs.length
  | [], _, h => by cases h
  | x :: xs, n, h => by
    rcases List.mem_cons.1 h with rfl | h
    · simp
    · have := mem_numberFrom h
      simp only [List.length_cons]
      omega

/-- **A window is its records, numbered from the start.** -/
theorem windowed_eq_map {α : Type} (records : List α) (start : Nat) {size : Nat} (h : 0 < size) :
    windowed start size records =
      (windowed 0 0 ((records.drop start).take size)).map fun p => (p.1 + start, p.2) := by
  have := numberFrom_add start ((records.drop start).take size) 0
  rw [Nat.zero_add] at this
  rw [windowed, windowed, if_neg (Nat.pos_iff_ne_zero.1 h), if_pos rfl, this]

theorem mem_windowed {α : Type} {records : List α} {start size : Nat} {p : Nat × α}
    (h : p ∈ windowed start size records) :
    p.1 < records.length ∧ (0 < size → start ≤ p.1 ∧ p.1 < start + size) := by
  unfold windowed at h
  split at h
  · have := mem_numberFrom h
    omega
  · have := mem_numberFrom h
    rw [List.length_take, List.length_drop] at this
    omega

/-! ### Two runs in step -/

/-- An error names only records with a property. -/
def MappingError.About (P : Nat → Prop) (e : MappingError) : Prop := ∀ n, e.rowNo? = some n → P n

def Assembly.WaitsFor (P : Nat → Prop) (a : Assembly) : Prop := ∀ p, a.pending = some p → P p.rowNo

/-- What comes of some steps is about records with a property. -/
def OutcomeAbout (P : Nat → Prop) : Except MappingError Assembly → Prop
  | .ok a => a.WaitsFor P
  | .error e => e.About P

namespace Mapping

variable (m : Mapping) (d : Nat)

theorem fillField_later (mem : FieldMemory) (rowNo : Nat) (row : Obj) (field : String) (v : Value) :
    m.fillField mem (rowNo + d) row field v =
      ((m.fillField mem rowNo row field v).1,
        (m.fillField mem rowNo row field v).2.mapError (MappingError.later d)) := by
  unfold fillField
  cases m.rowFiller with
  | fixed plan => cases hi : plan.invokeRow row field v <;> simp only [hi] <;> rfl
  | perField =>
    rcases hp : (mem.observe field).planFor m.row field with ⟨_ | plan, mem'⟩
    · simp only [hp]
      rfl
    · rcases hc : mem'.coercions.coerce field v plan.targetKind with ⟨e | v', coercions⟩
      · simp only [hp, hc]
        rfl
      · rcases hi : plan.invokeField row v' with ⟨row', e | _⟩ <;> simp only [hp, hc, hi] <;> rfl

theorem fillFields_later (rowNo : Nat) : ∀ (fields : List (String × Value)) (mem : FieldMemory) (row : Obj),
    m.fillFields mem (rowNo + d) row fields =
      ((m.fillFields mem rowNo row fields).1,
        (m.fillFields mem rowNo row fields).2.mapError (MappingError.later d))
  | [], _, _ => rfl
  | (field, v) :: fields, mem, row => by
    rw [fillFields, fillFields, fillField_later]
    rcases m.fillField mem rowNo row field v with ⟨mem', e | row'⟩
    · rfl
    · exact fillFields_later rowNo fields mem' row'

theorem append_later (a : Assembly) (row : Obj) (rowNo : Nat) :
    m.append (a.later d) row (rowNo + d) = laterOutcome d (m.append a row rowNo) := by
  unfold append
  cases hi : m.tablePlan.invokeTable a.table row a.added <;>
    simp [Assembly.later, hi, laterOutcome, MappingError.later]

theorem fold_later (g : RelationGroup) (pending : Option PendingRow) (row : Obj) (rowNo : Nat) :
    g.fold (pending.map (PendingRow.later d)) row (rowNo + d) =
      ((g.fold pending row rowNo).1.map (PendingRow.later d),
        (g.fold pending row rowNo).2.map (Option.map (PendingRow.later d))) := by
  unfold RelationGroup.fold
  cases g.keyValues row with
  | error e => rfl
  | ok keys =>
    cases pending with
    | none => rfl
    | some p =>
      simp only [Option.map_some, PendingRow.later]
      split
      · cases (g.merge p.row row).outcome <;> rfl
      · rfl

theorem takeRow_later (a : Assembly) (row : Obj) (rowNo : Nat) :
    m.takeRow (a.later d) row (rowNo + d) = laterOutcome d (m.takeRow a row rowNo) := by
  unfold takeRow
  cases m.relation with
  | none => exact m.append_later d a row rowNo
  | some g =>
    have hf := fold_later d g a.pending row rowNo
    have hp : (a.later d).pending = a.pending.map (PendingRow.later d) := rfl
    simp only [hp, hf]
    rcases g.fold a.pending row rowNo with ⟨pending, e | _ | done⟩
    · rfl
    · rfl
    · exact m.append_later d { a with pending } done.row done.rowNo

theorem finish_later (a : Assembly) : m.finish (a.later d) = laterOutcome d (m.finish a) := by
  unfold finish
  cases hp : a.pending with
  | none => simp [Assembly.later, hp, laterOutcome]
  | some done =>
    have := m.append_later d { a with pending := none } done.row done.rowNo
    simpa [Assembly.later, PendingRow.later, hp] using this

/-- **A run over records that stand later goes in step with the run over the same records here.** -/
theorem mapRecords_later : ∀ (records : List (Nat × Record)) (mem : FieldMemory) (a : Assembly),
    m.mapRecords mem (a.later d) (records.map fun p => (p.1 + d, p.2)) =
      ((m.mapRecords mem a records).1, laterOutcome d (m.mapRecords mem a records).2)
  | [], mem, a => by rw [List.map_nil, mapRecords, mapRecords, finish_later]
  | (rowNo, record) :: records, mem, a => by
    rw [List.map_cons, mapRecords, mapRecords, fillRow, fillRow, fillFields_later]
    rcases m.fillFields mem rowNo m.row.instantiate record.fields with ⟨mem', e | row⟩
    · rfl
    · show (match m.takeRow (a.later d) row (rowNo + d) with
        | .ok a' => m.mapRecords mem' a' (records.map fun p : Nat × Record => (p.1 + d, p.2))
        | .error e => (mem', .error e)) = _
      rw [takeRow_later]
      dsimp only
      cases m.takeRow a row rowNo with
      | error e => rfl
      | ok a' => exact mapRecords_later records mem' a'

/-! ### The records that errors name -/

theorem rowNo_of_fillField {mem : FieldMemory} {rowNo : Nat} {row : Obj} {field : String} {v : Value}
    {e : MappingError} (h : (m.fillField mem rowNo row field v).2 = .error e) : e.rowNo? = some rowNo := by
  unfold fillField at h
  simp only at h
  split at h
  · split at h
    · cases h
    · cases h
      rfl
  · split at h
    · cases h
    · split at h
      · cases h
        rfl
      · split at h
        · cases h
        · cases h
          rfl

theorem rowNo_of_fillFields {rowNo : Nat} {e : MappingError} :
    ∀ {fields : List (String × Value)} {mem : FieldMemory} {row : Obj},
      (m.fillFields mem rowNo row fields).2 = .error e → e.rowNo? = some rowNo
  | [], _, _, h => by cases h
  | (field, v) :: fields, mem, row, h => by
    rw [fillFields] at h
    rcases hf : m.fillField mem rowNo row field v with ⟨mem', e' | row'⟩
    · rw [hf] at h
      cases h
      exact m.rowNo_of_fillField (congrArg Prod.snd hf)
    · rw [hf] at h
      exact rowNo_of_fillFields h

variable (P : Nat → Prop)

theorem append_about {a : Assembly} (ha : a.WaitsFor P) (row : Obj) {rowNo : Nat} (h : P rowNo) :
    OutcomeAbout P (m.append a row rowNo) := by
  unfold append
  split
  · exact ha
  · intro n hn
    cases hn
    exact h

theorem fold_about {g : RelationGroup} {pending : Option PendingRow} (row : Obj) {rowNo : Nat} (h : P rowNo)
    (hp : ∀ p ∈ pending, P p.rowNo) :
    (∀ p ∈ (g.fold pending row rowNo).1, P p.rowNo) ∧
      ∀ done, (g.fold pending row rowNo).2 = .ok (some done) → P done.rowNo := by
  unfold RelationGroup.fold
  split
  · exact ⟨hp, fun done hd => by cases hd⟩
  · split
    · rename_i p
      split
      · refine ⟨fun q hq => ?_, fun done hd => ?_⟩
        · cases hq
          exact hp p rfl
        · cases ho : (g.merge p.row row).outcome <;> simp [ho, Except.map] at hd
      · refine ⟨fun q hq => ?_, fun done hd => ?_⟩
        · cases hq
          exact h
        · cases hd
          exact hp p rfl
    · refine ⟨fun q hq => ?_, fun done hd => by cases hd⟩
      cases hq
      exact h

theorem takeRow_about {a : Assembly} (ha : a.WaitsFor P) (row : Obj) {rowNo : Nat} (h : P rowNo) :
    OutcomeAbout P (m.takeRow a row rowNo) := by
  unfold takeRow
  split
  · exact m.append_about P ha row h
  · rename_i g _
    obtain ⟨hpending, hdone⟩ := fold_about P (g := g) row h ha
    split
    · intro n hn
      cases hn
      exact h
    · rename_i pending hf
      rw [hf] at hpending
      exact hpending
    · rename_i pending done hf
      rw [hf] at hpending hdone
      have hw : Assembly.WaitsFor P { a with pending } := hpending
      exact m.append_about P hw done.row (hdone done rfl)

theorem finish_about {a : Assembly} (ha : a.WaitsFor P) : OutcomeAbout P (m.finish a) := by
  unfold finish
  split
  · exact ha
  · rename_i done hp
    exact m.append_about P (fun p h => by cases h) done.row (ha done hp)

/-- **A run is about its records**: it fails at one of them, or at one that waited before. -/
theorem mapRecords_about : ∀ {records : List (Nat × Record)} (mem : FieldMemory) {a : Assembly},
    (∀ p ∈ records, P p.1) → a.WaitsFor P → OutcomeAbout P (m.mapRecords mem a records).2
  | [], _, _, _, ha => m.finish_about P ha
  | (rowNo, record) :: records, mem, a, h, ha => by
    have h₀ : P rowNo := h (rowNo, record) (by simp)
    rw [mapRecords]
    rcases hf : m.fillRow mem rowNo record with ⟨mem', e | row⟩
    · intro n hn
      have := m.rowNo_of_fillFields (congrArg Prod.snd hf)
      rw [this] at hn
      cases hn
      exact h₀
    · have ht := m.takeRow_about P ha row h₀
      simp only
      cases hr : m.takeRow a row rowNo with
      | error e =>
        rw [hr] at ht
        exact ht
      | ok a' =>
        rw [hr] at ht
        exact mapRecords_about mem' (fun p hp => h p (by simp [hp])) ht

end Mapping

/-! ### Windows of a mapper -/

/-- **A run over a window is the run over the window's records, with its errors moved by the start; without a window
the start does not matter; and an error names a record of the window.** -/
theorem Mapper.run_window (m : Mapper) (records : List Record) (start size : Nat) :
    (0 < size → m.run records start size =
      ((m.run ((records.drop start).take size) 0 0).1,
        (m.run ((records.drop start).take size) 0 0).2.mapError (MappingError.later start))) ∧
    m.run records start 0 = m.run records 0 0 ∧
    ∀ e rowNo, (m.run records start size).2 = .error e → e.rowNo? = some rowNo →
      rowNo < records.length ∧ (0 < size → start ≤ rowNo ∧ rowNo < start + size) := by
  refine ⟨fun hsize => ?_, rfl, fun e rowNo he hrow => ?_⟩
  · unfold Mapper.run
    cases m.compile with
    | error e => rfl
    | ok p =>
      obtain ⟨c, m'⟩ := p
      have hrun := c.mapping.mapRecords_later start (windowed 0 0 ((records.drop start).take size)) c.memory
        c.mapping.start
      rw [← windowed_eq_map records start hsize] at hrun
      have hstart : c.mapping.start.later start = c.mapping.start := rfl
      rw [hstart] at hrun
      simp only [Mapping.run, hrun]
      cases (c.mapping.mapRecords c.memory c.mapping.start (windowed 0 0 ((records.drop start).take size))).2 <;> rfl
  · unfold Mapper.run at he
    cases hc : m.compile with
    | error e' =>
      rw [hc] at he
      cases he
      cases hrow
    | ok p =>
      obtain ⟨c, m'⟩ := p
      have habout := c.mapping.mapRecords_about
        (fun n => n < records.length ∧ (0 < size → start ≤ n ∧ n < start + size)) c.memory
        (fun p hp => mem_windowed hp) (fun p (hp : c.mapping.start.pending = some p) => by cases hp)
      rw [hc] at he
      simp only [Mapping.run] at he
      cases hr : (c.mapping.mapRecords c.memory c.mapping.start (windowed start size records)).2 with
      | ok a =>
        rw [hr] at he
        cases he
      | error e' =>
        rw [hr] at he habout
        cases he
        exact habout rowNo hrow

/-- A mapper that takes the value of a field for its name. -/
def Mapper.misnaming : Mapper := Mapper.generic.set (.rowFill "put(colValue, colName)")

/-- The second value is no name: the window of its record fails at place one, and the record alone at place zero. -/
theorem Mapper.run_window_misnaming :
    let first : Record := [("a", .scalar (.text "x"))]
    let second : Record := [("n.b", .scalar (.boolean true))]
    0 < 1 ∧ misnaming.run [first, second] 1 1 =
        ((misnaming.run [second] 0 0).1, (misnaming.run [second] 0 0).2.mapError (MappingError.later 1)) ∧
      (misnaming.run [second] 0 0).2 = .error (.row 0 "b" (.refused "put expects a text name")) ∧
      (misnaming.run [first, second] 1 1).2 = .error (.row 1 "b" (.refused "put expects a text name")) ∧
      1 < [first, second].length := by
  have halone : (misnaming.run [[("n.b", .scalar (.boolean true))]] 0 0).2
      = .error (.row 0 "b" (.refused "put expects a text name")) := by rfl
  have hwindow : (misnaming.run [[("a", .scalar (.text "x"))], [("n.b", .scalar (.boolean true))]] 1 1).2
      = .error (.row 1 "b" (.refused "put expects a text name")) := by rfl
  intro first second
  obtain ⟨hrun, -, habout⟩ := misnaming.run_window [first, second] 1 1
  exact ⟨by decide, hrun (by decide), halone, hwindow, (habout _ 1 hwindow rfl).1⟩

end QueryRows
