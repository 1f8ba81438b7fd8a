import QueryRows.Proofs.Compilations
import QueryRows.Proofs.FirstOccurrences
/-!
# Columns — the columns of a mapper are the fields that its runs have met

A run meets the fields of its records in order, up to the first one that does not go into its row, or up to the end of
the record whose row is not taken in (`Mapping.fieldsMet`).  The columns of a mapper are the first occurrences of the
fields met since it was compiled, each in the chosen style, whichever runs failed on the way (`notesColumns`): a memory
that looks at a field only once notes what looking at every field would (`FieldMemory.Noted`).
-/
namespace QueryRows

def Record.fieldNames (r : Record) : List String := r.fields.map (·.1)

namespace Mapping

/-- The fields tried on a row: all of them, or up to the first one that does not go into it. -/
def fieldsTried (m : Mapping) (rowNo : Nat) (row : Obj) : List (String × Value) → List String
  | [] => []
  | (field, v) :: fields =>
    match m.fillFieldAnew rowNo row field v with
    | .ok row' => field :: m.fieldsTried rowNo row' fields
    | .error _ => [field]

/-- **The fields that a run meets**, with or without a value and with or without a setter. -/
def fieldsMet (m : Mapping) (a : Assembly) : List (Nat × Record) → List String
  | [] => []
  | (rowNo, record) :: records =>
    match m.fillRowAnew rowNo record with
    | .error _ => m.fieldsTried rowNo m.row.instantiate record.fields
    | .ok row =>
      match m.takeRow a row rowNo with
      | .error _ => record.fieldNames
      | .ok a' => record.fieldNames ++ m.fieldsMet a' records

end Mapping

/-- The fields that a call meets; only runs meet any. -/
def MapperCall.fieldsMet (mapping : Mapping) : MapperCall → List String
  | .run records start size => mapping.fieldsMet mapping.start (windowed start size records)
  | _ => []

/-- The columns of all the fields that calls have met. -/
def columnsMet (mapping : Mapping) (style : NameStyle) (calls : List MapperCall) : List String :=
  ((calls.flatMap (MapperCall.fieldsMet mapping)).map style.apply).eraseDups

/-- **A mapper notes the columns of the fields met by uses since it was compiled**, each once, as if every field met
were added on its own; a table comes with the columns noted up to and with its own run, which has met every field of
its records. -/
structure Mapper.NotesColumns (m : Mapper) (mapping : Mapping) (uses : List MapperCall) : Prop where
  metadata_eq : uses ≠ [] → (m.afterAll uses).metadata? = some ⟨m.config.style, columnsMet mapping m.config.style uses⟩
  eq_foldl_add : ⟨m.config.style, columnsMet mapping m.config.style uses⟩ =
    (uses.flatMap (MapperCall.fieldsMet mapping)).foldl Metadata.add (.empty m.config.style)
  nodup : (columnsMet mapping m.config.style uses).Nodup
  table : ∀ done records start size later t, uses = done ++ .run records start size :: later →
    ((m.afterAll done).run records start size).2 = .ok t →
      t.metadata.columns = columnsMet mapping m.config.style (done ++ [.run records start size]) ∧
      t.metadata.count = (columnsMet mapping m.config.style (done ++ [.run records start size])).length ∧
      MapperCall.fieldsMet mapping (.run records start size) =
        (windowed start size records).flatMap fun p => p.2.fieldNames

/-! ### Fields met -/

namespace Mapping

variable {m : Mapping} {rowNo : Nat}

theorem fieldsTried_of_ok : ∀ {fields : List (String × Value)} {row row' : Obj},
    m.fillFieldsAnew rowNo row fields = .ok row' → m.fieldsTried rowNo row fields = fields.map (·.1)
  | [], _, _, _ => rfl
  | (field, v) :: fields, row, row', h => by
    rw [fillFieldsAnew] at h
    rw [fieldsTried]
    cases hnext : m.fillFieldAnew rowNo row field v with
    | error e =>
      rw [hnext] at h
      cases h
    | ok next =>
      rw [hnext] at h
      simp only [List.map_cons, fieldsTried_of_ok h]

/-- **A run that succeeds has met every field of its records.** -/
theorem fieldsMet_of_ok : ∀ {records : List (Nat × Record)} {a a' : Assembly}, m.mapRecordsAnew a records = .ok a' →
    m.fieldsMet a records = records.flatMap fun p => p.2.fieldNames
  | [], _, _, _ => rfl
  | (rowNo, record) :: records, a, a', h => by
    rw [mapRecordsAnew] at h
    rw [fieldsMet, List.flatMap_cons]
    cases hrow : m.fillRowAnew rowNo record with
    | error e =>
      rw [hrow] at h
      cases h
    | ok row =>
      rw [hrow] at h
      simp only at h ⊢
      cases hnext : m.takeRow a row rowNo with
      | error e =>
        rw [hnext] at h
        cases h
      | ok next =>
        rw [hnext] at h
        simp only [fieldsMet_of_ok h]

end Mapping

/-! ### What a memory has noted -/

namespace FieldMemory

/-- **A memory has noted fields**: it has seen no others, and its columns are the columns of all of them. -/
structure Noted (mem : FieldMemory) (style : NameStyle) (fields : List String) : Prop where
  seen : ∀ field ∈ mem.seen, field ∈ fields
  metadata : mem.metadata = .ofFields style fields

variable {mem : FieldMemory} {style : NameStyle} {fields : List String}

theorem noted_empty (style : NameStyle) : (empty style).Noted style [] :=
  ⟨fun _ h => (nomatch h), rfl⟩

/-- **A field seen before needs no look**: its column is there. -/
theorem Noted.observe (h : mem.Noted style fields) (field : String) :
    (mem.observe field).Noted style (fields ++ [field]) := by
  have hseen : ∀ other ∈ mem.seen, other ∈ fields ++ [field] := fun other hother =>
    List.mem_append_left _ (h.seen other hother)
  unfold FieldMemory.observe
  split
  · rename_i hfield
    refine ⟨hseen, ?_⟩
    rw [h.metadata, Metadata.ofFields_concat_of_mem (h.seen field (List.contains_iff_mem.1 hfield))]
  · refine ⟨fun other hother => ?_, ?_⟩
    · rcases List.mem_append.1 hother with hother | hother
      · exact hseen other hother
      · exact List.mem_append_right _ hother
    · exact (congrArg (Metadata.add · field) h.metadata).trans (Metadata.add_ofFields style fields field)

theorem Noted.withCoercions (h : mem.Noted style fields) (coercions : CoercionCache) :
    Noted { mem with coercions } style fields := ⟨h.seen, h.metadata⟩

theorem Noted.planFor (h : mem.Noted style fields) (row : Class) (field : String) :
    (mem.planFor row field).2.Noted style fields := by
  unfold FieldMemory.planFor
  split
  · exact h
  · exact ⟨h.seen, h.metadata⟩

end FieldMemory

namespace Mapping

variable (m : Mapping) {mem : FieldMemory} {style : NameStyle} {met : List String}

/-- **Filling a field notes it**, also when it does not go into the row. -/
theorem fillField_noted (h : mem.Noted style met) (rowNo : Nat) (row : Obj) (field : String) (v : Value) :
    (m.fillField mem rowNo row field v).1.Noted style (met ++ [field]) := by
  have hseen := h.observe field
  unfold fillField
  cases m.rowFiller with
  | fixed plan => cases hi : plan.invokeRow row field v <;> simpa only [hi] using hseen
  | perField =>
    have hplan := hseen.planFor m.row field
    rcases hp : (mem.observe field).planFor m.row field with ⟨_ | plan, mem'⟩
    · rw [hp] at hplan
      simpa only [hp] using hplan
    · rw [hp] at hplan
      rcases hc : mem'.coercions.coerce field v plan.targetKind with ⟨e | v', coercions⟩
      · simpa only [hp, hc] using hplan.withCoercions coercions
      · rcases hi : plan.invokeField row v' with ⟨row', e | _⟩ <;>
          simpa only [hp, hc, hi] using hplan.withCoercions coercions

/-- **Filling fields notes those that are tried.** -/
theorem fillFields_noted (rowNo : Nat) : ∀ (fields : List (String × Value)) {mem : FieldMemory} {met : List String}
    (row : Obj), mem.Agrees m.row → mem.Noted style met →
      (m.fillFields mem rowNo row fields).1.Noted style (met ++ m.fieldsTried rowNo row fields)
  | [], _, met, _, _, h => by
    rw [fieldsTried, List.append_nil]
    exact h
  | (field, v) :: fields, mem, met, row, hagrees, h => by
    -- the memory agrees, so a field goes into the row exactly where it would go in anew
    obtain ⟨hrow, hmem⟩ := m.fillField_agrees hagrees rowNo row field v
    have hnoted := m.fillField_noted h rowNo row field v
    rw [fillFields, fieldsTried, ← hrow]
    rcases hf : m.fillField mem rowNo row field v with ⟨mem', e | row'⟩
    · rw [hf] at hnoted
      exact hnoted
    · rw [hf] at hnoted hmem
      have hrest := fillFields_noted rowNo fields row' hmem hnoted
      rw [List.append_assoc, List.singleton_append] at hrest
      exact hrest

/-- **A run notes the fields that it meets**, wherever it ends. -/
theorem mapRecords_noted : ∀ (records : List (Nat × Record)) {mem : FieldMemory} {met : List String} (a : Assembly),
    mem.Agrees m.row → mem.Noted style met →
      (m.mapRecords mem a records).1.Noted style (met ++ m.fieldsMet a records)
  | [], _, met, _, _, h => by
    rw [fieldsMet, List.append_nil]
    exact h
  | (rowNo, record) :: records, mem, met, a, hagrees, h => by
    obtain ⟨hrow, hmem⟩ := m.fillRow_agrees hagrees rowNo record
    have hnoted := m.fillFields_noted rowNo record.fields m.row.instantiate hagrees h
    rw [mapRecords, fieldsMet, ← hrow]
    rcases hf : m.fillRow mem rowNo record with ⟨mem', e | row⟩
    · rw [← fillRow, hf] at hnoted
      exact hnoted
    · rw [hf] at hrow hmem
      rw [← fillRow, hf, fieldsTried_of_ok hrow.symm] at hnoted
      simp only
      cases m.takeRow a row rowNo with
      | error e => exact hnoted
      | ok a' =>
        have hrest := mapRecords_noted records a' hmem hnoted
        rw [List.append_assoc] at hrest
        exact hrest

end Mapping

/-! ### What a mapper has noted -/

namespace Mapper

/-- **A mapper has met fields since it was compiled**: its compilation, kept or made now, has noted them. -/
def HasMet (m : Mapper) (mapping : Mapping) (fields : List String) : Prop :=
  ∃ c m', m.compile = .ok (c, m') ∧ m'.config = m.config ∧ m'.compiled = some c ∧ c.mapping = mapping ∧
    c.memory.Agrees mapping.row ∧ c.memory.Noted m.config.style fields

variable {m : Mapper} {mapping : Mapping} {fields : List String}

theorem hasMet_nil (hm : m.compiled = none) (hmapping : Mapping.compile m.config = .ok mapping) :
    m.HasMet mapping [] := by
  unfold HasMet Mapper.compile
  rw [hm, hmapping]
  exact ⟨_, _, rfl, rfl, rfl, rfl, FieldMemory.agrees_empty _ _, FieldMemory.noted_empty _⟩

theorem hasMet_of_compiled {memory : FieldMemory} (hm : m.compiled = some ⟨mapping, memory⟩)
    (hagrees : memory.Agrees mapping.row) (hnoted : memory.Noted m.config.style fields) : m.HasMet mapping fields := by
  unfold HasMet Mapper.compile
  rw [hm]
  exact ⟨_, m, rfl, rfl, hm, rfl, hagrees, hnoted⟩

/-- **A run notes what it meets**, and gives its table the columns noted by then. -/
theorem HasMet.run (h : m.HasMet mapping fields) (records : List Record) (start size : Nat) :
    (m.run records start size).1.config = m.config ∧
      (m.run records start size).1.HasMet mapping (fields ++ (MapperCall.run records start size).fieldsMet mapping) ∧
      ∀ t, (m.run records start size).2 = .ok t →
        t.metadata = .ofFields m.config.style (fields ++ (MapperCall.run records start size).fieldsMet mapping) ∧
        ∃ a, mapping.mapRecordsAnew mapping.start (windowed start size records) = .ok a := by
  obtain ⟨c, m', hc, hconfig, -, rfl, hagrees, hnoted⟩ := h
  obtain ⟨hout, hagrees'⟩ := c.mapping.mapRecords_agrees (windowed start size records) c.mapping.start hagrees
  have hnoted' := c.mapping.mapRecords_noted (windowed start size records) c.mapping.start hagrees hnoted
  unfold Mapper.run
  rw [hc]
  simp only [Mapping.run]
  refine ⟨hconfig, hasMet_of_compiled rfl hagrees' (by rw [hconfig]; exact hnoted'), fun t ht => ?_⟩
  rw [← hout]
  cases ho : (c.mapping.mapRecords c.memory c.mapping.start (windowed start size records)).2 with
  | error e =>
    rw [ho] at ht
    cases ht
  | ok a =>
    rw [ho] at ht
    cases ht
    exact ⟨hnoted'.metadata, a, rfl⟩

theorem HasMet.after (h : m.HasMet mapping fields) {use : MapperCall} (huse : use.isUse = true) :
    (m.after use).config = m.config ∧ (m.after use).HasMet mapping (fields ++ use.fieldsMet mapping) := by
  cases use with
  | set s => cases huse
  | prepare =>
    obtain ⟨c, m', hc, hconfig, hcompiled, rfl, hagrees, hnoted⟩ := h
    have hafter : m.after .prepare = m' := by simp only [Mapper.after, Mapper.prepare, hc]
    have hnone : MapperCall.fieldsMet c.mapping .prepare = [] := rfl
    rw [hafter, hnone, List.append_nil]
    exact ⟨hconfig, hasMet_of_compiled hcompiled hagrees (by rw [hconfig]; exact hnoted)⟩
  | run records start size => exact ⟨(h.run records start size).1, (h.run records start size).2.1⟩

theorem HasMet.afterAll : ∀ (uses : List MapperCall) {m : Mapper} {fields : List String}, m.HasMet mapping fields →
    (∀ call ∈ uses, call.isUse = true) → (m.afterAll uses).config = m.config ∧
      (m.afterAll uses).HasMet mapping (fields ++ uses.flatMap (MapperCall.fieldsMet mapping))
  | [], _, fields, h, _ => by
    rw [List.flatMap_nil, List.append_nil]
    exact ⟨rfl, h⟩
  | use :: uses, m, fields, h, huses => by
    rw [List.forall_mem_cons] at huses
    obtain ⟨hconfig, hafter⟩ := h.after huses.1
    obtain ⟨hconfig', hrest⟩ := HasMet.afterAll uses hafter huses.2
    rw [List.append_assoc] at hrest
    exact ⟨hconfig'.trans hconfig, hrest⟩

theorem HasMet.metadata? (h : m.HasMet mapping fields) (hm : m.isCompiled = true) :
    m.metadata? = some (.ofFields m.config.style fields) := by
  obtain ⟨c, m', hc, -, -, -, -, hnoted⟩ := h
  obtain ⟨kept, hkept⟩ := Option.isSome_iff_exists.1 hm
  have heq : c = kept := by
    unfold Mapper.compile at hc
    rw [hkept] at hc
    cases hc
    rfl
  rw [Mapper.metadata?, hkept, Option.map_some, ← heq, hnoted.metadata]

/-- **The columns of a mapper are those of the fields that its runs have met** since its configuration was compiled,
whether they succeeded or failed. -/
theorem notesColumns (hm : m.compiled = none) (hmapping : Mapping.compile m.config = .ok mapping)
    {uses : List MapperCall} (huses : ∀ call ∈ uses, call.isUse = true) : m.NotesColumns mapping uses := by
  have hmet (done : List MapperCall) (hdone : ∀ call ∈ done, call.isUse = true) :=
    (hasMet_nil hm hmapping).afterAll done hdone
  refine ⟨fun hne => ?_, (Metadata.foldl_add _ _).symm, nodup_eraseDups _, ?_⟩
  · obtain ⟨hconfig, hall⟩ := hmet uses huses
    have hcompiles : m.config.compiles = true := by
      rw [MappingConfig.compiles, hmapping]
      rfl
    rw [hall.metadata? ((current_of_compiled_none hm).isCompiled_of_compiles hcompiles hne huses), hconfig]
    rfl
  · intro done records start size later t hs ht
    obtain ⟨hconfig, hall⟩ := hmet done fun call hcall => huses call (hs ▸ List.mem_append_left _ hcall)
    obtain ⟨hmetadata, a, ha⟩ := (hall.run records start size).2.2 t ht
    have hcolumns : t.metadata.columns = columnsMet mapping m.config.style (done ++ [.run records start size]) := by
      rw [hmetadata, hconfig, columnsMet, List.flatMap_append, List.flatMap_singleton]
      rfl
    exact ⟨hcolumns, congrArg List.length hcolumns, Mapping.fieldsMet_of_ok ha⟩

/-- The first run ends at the field that is no number, so `total` is not met; the second one meets a field of the
same column again, without a value, and one that no setter takes. -/
theorem notesColumns_orders :
    let failing : MapperCall := .run [[("o", .node [("id", .text "x"), ("total", .long 1)])]] 0 0
    let filling : MapperCall := .run [[("n.Id", .scalar .null), ("o", .node [("colour", .text "red")])]] 0 0
    ∃ mapping, orders.compiled = none ∧ Mapping.compile orders.config = .ok mapping ∧
      (∀ call ∈ [failing, filling], call.isUse = true) ∧ orders.NotesColumns mapping [failing, filling] ∧
      columnsMet mapping orders.config.style [failing, filling] = ["ID", "COLOUR"] := by
  intro failing filling
  have huses : ∀ call ∈ [failing, filling], call.isUse = true := by
    intro call hcall
    simp only [List.mem_cons, List.not_mem_nil, or_false] at hcall
    rcases hcall with rfl | rfl <;> rfl
  obtain ⟨mapping, hmapping, hcolumns⟩ : ∃ mapping, Mapping.compile orders.config = .ok mapping ∧
      columnsMet mapping orders.config.style [failing, filling] = ["ID", "COLOUR"] := ⟨_, rfl, by rfl⟩
  exact ⟨mapping, rfl, hmapping, huses, notesColumns rfl hmapping huses, hcolumns⟩

end Mapper

end QueryRows
