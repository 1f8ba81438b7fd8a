import QueryRows.Proofs.Results
import QueryRows.Proofs.RowRuns
/-!
# FirstFailure — which failure a run reports

Three steps of a run may fail: a field does not go into the row of a record, a row cannot be grouped, or the row of a
group does not go into the table.  The last one is taken when a record displaces the group, which may be much later
than its first record, and that first record is the one that the error names.  `Fails` says for each of the three which
steps came before it without a failure; a run fails with an error exactly when this says so (`run_eq_error_iff`).
-/
namespace QueryRows

namespace Mapping

/-! ### Groups of rows -/

/-- The row of a record goes on with the group of the record before it. -/
def continues (m : Mapping) (before after : Nat × Obj) : Bool :=
  match m.relation with
  | none => false
  | some g => g.sameKeys before.2 after.2

/-- **The groups of numbered rows**: maximal runs of rows that go on with each other; without a relation every row is a
group of its own. -/
def groups (m : Mapping) (rows : List (Nat × Obj)) : List (List (Nat × Obj)) := rows.splitBy m.continues

/-- The groups that are complete when these rows have come: with a relation, all but the last one. -/
def displaced (m : Mapping) (rows : List (Nat × Obj)) : List (List (Nat × Obj)) :=
  match m.relation with
  | none => m.groups rows
  | some _ => (m.groups rows).dropLast

/-- The group that more rows may go on with. -/
def waiting? (m : Mapping) (rows : List (Nat × Obj)) : Option (List (Nat × Obj)) :=
  match m.relation with
  | none => none
  | some _ => (m.groups rows).getLast?

/-- The row of a group: its first row, into which the later ones are merged. -/
def groupRow (m : Mapping) : List (Nat × Obj) → Obj
  | [] => m.row.instantiate
  | (_, first) :: later =>
    match m.relation with
    | none => first
    | some g => later.foldl (fun row q => (g.merge row q.2).into) first

/-- **A row cannot be grouped after other rows**: its keys cannot be read, or it goes on with the group that waits and
cannot be merged into the row of that group. -/
inductive GroupingFails (m : Mapping) (rows : List (Nat × Obj)) (row : Obj) : InvokeError → Prop
  | keys {g : RelationGroup} {e : InvokeError} :
    m.relation = some g → g.keyValues row = .error e → GroupingFails m rows row e
  | merge {g : RelationGroup} {group : List (Nat × Obj)} {last : Nat × Obj} {e : InvokeError} :
    m.relation = some g → m.waiting? rows = some group → group.getLast? = some last → g.sameKeys last.2 row = true →
      (g.merge (m.groupRow group) row).outcome = .error e → GroupingFails m rows row e

/-! ### What a run has done, and what it fails with -/

/-- **Records have been filled into rows and grouped**, one after the other and without a failure. -/
inductive Taken (m : Mapping) : List (Nat × Record) → List (Nat × Obj) → Prop
  | nil : Taken m [] []
  | concat {records : List (Nat × Record)} {rows : List (Nat × Obj)} {rowNo : Nat} {record : Record} {row : Obj} :
    Taken m records rows → m.fillRowAnew rowNo record = .ok row → (∀ e, ¬ m.GroupingFails rows row e) →
      Taken m (records ++ [(rowNo, record)]) (rows ++ [(rowNo, row)])

/-- Records have been taken, and the rows of all groups that they displaced have gone into the table. -/
structure Done (m : Mapping) (records : List (Nat × Record)) (rows : List (Nat × Obj)) (table : Obj) : Prop where
  taken : m.Taken records rows
  handed : m.handOver m.table.instantiate 0 ((m.displaced rows).map m.groupRow) = .ok table

/-- **The failure that a run over a window reports.** -/
inductive Fails (m : Mapping) (window : List (Nat × Record)) : MappingError → Prop
  /-- the first field of a record that does not go into its row -/
  | field {before after : List (Nat × Record)} {rowNo : Nat} {record : Record} {rows : List (Nat × Obj)} {table : Obj}
      {filled left : List (String × Value)} {field : String} {v : Value} {row : Obj} {cause : InvokeError} :
    window = before ++ (rowNo, record) :: after → m.Done before rows table →
      record.fields = filled ++ (field, v) :: left → m.fillFieldsAnew rowNo m.row.instantiate filled = .ok row →
      m.fillFieldAnew rowNo row field v = .error (.row rowNo field cause) → Fails m window (.row rowNo field cause)
  /-- a record whose row is filled but cannot be grouped -/
  | grouping {before after : List (Nat × Record)} {rowNo : Nat} {record : Record} {rows : List (Nat × Obj)}
      {table row : Obj} {cause : InvokeError} :
    window = before ++ (rowNo, record) :: after → m.Done before rows table →
      m.fillRowAnew rowNo record = .ok row → m.GroupingFails rows row cause →
      Fails m window (.row rowNo relationField cause)
  /-- a group that a record displaces and that does not go into the table; its first record is named -/
  | displaced {before after : List (Nat × Record)} {rowNo : Nat} {record : Record} {rows : List (Nat × Obj)}
      {table row : Obj} {firstNo : Nat} {first : Obj} {later : List (Nat × Obj)} {cause : InvokeError} :
    window = before ++ (rowNo, record) :: after → m.Done before rows table →
      m.fillRowAnew rowNo record = .ok row → (∀ e, ¬ m.GroupingFails rows row e) →
      m.displaced (rows ++ [(rowNo, row)]) = m.displaced rows ++ [(firstNo, first) :: later] →
      m.tablePlan.invokeTable table (m.groupRow ((firstNo, first) :: later)) (m.displaced rows).length = .error cause →
      Fails m window (.table firstNo cause)
  /-- the group that waits after all records and does not go into the table -/
  | last {rows : List (Nat × Obj)} {table : Obj} {firstNo : Nat} {first : Obj} {later : List (Nat × Obj)}
      {cause : InvokeError} :
    m.Done window rows table → m.waiting? rows = some ((firstNo, first) :: later) →
      m.tablePlan.invokeTable table (m.groupRow ((firstNo, first) :: later)) (m.displaced rows).length = .error cause →
      Fails m window (.table firstNo cause)

/-! ### Groups, one row later -/

section

variable {m : Mapping} {g : RelationGroup} {rows : List (Nat × Obj)} {q : Nat × Obj}

theorem groups_concat_of_not_continues (h : ∀ last ∈ rows.getLast?, m.continues last q = false) :
    m.groups (rows ++ [q]) = m.groups rows ++ [[q]] := List.splitBy_append_cons [] h

theorem flatten_groups (m : Mapping) (rows : List (Nat × Obj)) : (m.groups rows).flatten = rows :=
  List.flatten_splitBy _ rows

/-- The last row of the last group is the last row of all. -/
theorem getLast?_of_groups {before : List (List (Nat × Obj))} {group : List (Nat × Obj)}
    (h : m.groups rows = before ++ [group]) : rows.getLast? = group.getLast? := by
  have hne : group ≠ [] := List.ne_nil_of_mem_splitBy (h ▸ List.mem_append_right _ (List.mem_singleton_self _))
  rw [← m.flatten_groups rows, h, List.flatten_append, List.flatten_singleton, List.getLast?_append_of_ne_nil _ hne]

theorem groups_concat_of_continues {before : List (List (Nat × Obj))} {group : List (Nat × Obj)}
    (h : m.groups rows = before ++ [group]) (hq : ∀ last ∈ group.getLast?, m.continues last q = true) :
    m.groups (rows ++ [q]) = before ++ [group ++ [q]] := by
  obtain ⟨hrows, hnil, hchain, hbreaks⟩ := List.splitBy_eq_iff.1 h
  have hne : group ≠ [] := fun hg => hnil (by simp [hg])
  refine List.splitBy_eq_iff.2 ⟨?_, ?_, ?_, ?_⟩
  · rw [hrows]
    simp
  · simpa using fun hmem => hnil (List.mem_append_left _ hmem)
  · intro run hrun
    rcases List.mem_append.1 hrun with hrun | hrun
    · exact hchain run (List.mem_append_left _ hrun)
    · obtain rfl := List.mem_singleton.1 hrun
      refine List.isChain_append.2 ⟨hchain group (by simp), List.isChain_singleton q, fun last hlast next hnext => ?_⟩
      cases hnext
      exact hq last hlast
  · rw [List.isChain_append] at hbreaks ⊢
    refine ⟨hbreaks.1, List.isChain_singleton _, fun run hrun next hnext => ?_⟩
    cases hnext
    obtain ⟨hrunne, _, hbreak⟩ := hbreaks.2.2 run hrun group rfl
    refine ⟨hrunne, by simp, ?_⟩
    rw [List.head_append_of_ne_nil hne]
    exact hbreak

theorem displaced_concat_of_no_relation (h : m.relation = none) :
    m.displaced (rows ++ [q]) = m.displaced rows ++ [[q]] := by
  simp only [displaced, h]
  exact groups_concat_of_not_continues fun last _ => by simp only [continues, h]

theorem displaced_concat_of_continues (hg : m.relation = some g) {before : List (List (Nat × Obj))}
    {group : List (Nat × Obj)} (h : m.groups rows = before ++ [group])
    (hq : ∀ last ∈ group.getLast?, m.continues last q = true) :
    m.displaced (rows ++ [q]) = m.displaced rows ∧ m.waiting? (rows ++ [q]) = some (group ++ [q]) := by
  simp [displaced, waiting?, hg, h, groups_concat_of_continues h hq]

theorem displaced_concat_of_not_continues (hg : m.relation = some g)
    (hq : ∀ last ∈ rows.getLast?, m.continues last q = false) :
    m.displaced (rows ++ [q]) = m.groups rows ∧ m.waiting? (rows ++ [q]) = some [q] := by
  simp [displaced, waiting?, hg, groups_concat_of_not_continues hq]

theorem groups_eq_of_waiting (hg : m.relation = some g) {group : List (Nat × Obj)} (h : m.waiting? rows = some group) :
    m.groups rows = m.displaced rows ++ [group] := by
  simp only [waiting?, displaced, hg] at h ⊢
  exact (List.dropLast_append_getLast? _ h).symm

theorem nil_of_no_waiting (hg : m.relation = some g) (h : m.waiting? rows = none) : rows = [] := by
  simp only [waiting?, hg] at h
  exact List.splitBy_eq_nil.1 (List.getLast?_eq_none_iff.1 h)

end

/-! ### Tables that are handed rows -/

theorem handOver_append (m : Mapping) : ∀ (rows more : List Obj) (table : Obj) (added : Nat),
    m.handOver table added (rows ++ more) =
      (m.handOver table added rows).bind fun table' => m.handOver table' (added + rows.length) more
  | [], more, table, added => rfl
  | row :: rows, more, table, added => by
    rw [List.cons_append, handOver, handOver]
    cases m.tablePlan.invokeTable table row added with
    | error e => rfl
    | ok table' =>
      simp only
      rw [handOver_append m rows more, List.length_cons, Nat.add_right_comm, Nat.add_assoc]

/-! ### An assembly that stands after rows -/

/-- A row that waits is the row of a group, with the keys and the number of the group's first row. -/
def WaitsAs (m : Mapping) (group : List (Nat × Obj)) (p : PendingRow) : Prop :=
  ∃ rowNo first later, group = (rowNo, first) :: later ∧ p.row = m.groupRow group ∧ p.rowNo = rowNo ∧
    ∀ g, m.relation = some g → g.keyValues first = .ok p.keys

/-- **An assembly stands after rows**: it has handed over the groups that they displaced, and holds the row of the group
that waits. -/
structure Stands (m : Mapping) (rows : List (Nat × Obj)) (a : Assembly) : Prop where
  handed : m.handOver m.table.instantiate 0 ((m.displaced rows).map m.groupRow) = .ok a.table
  added : a.added = (m.displaced rows).length
  pending : Option.Rel m.WaitsAs (m.waiting? rows) a.pending

variable {m : Mapping} {rows : List (Nat × Obj)} {a : Assembly}

/-- A row waits exactly when a group does. -/
theorem Stands.waiting_cases (h : m.Stands rows a) :
    (m.waiting? rows = none ∧ a.pending = none) ∨
      ∃ group p, m.waiting? rows = some group ∧ a.pending = some p ∧ m.WaitsAs group p := by
  have hpending := h.pending
  cases hwaiting : m.waiting? rows <;> cases hp : a.pending <;> rw [hwaiting, hp] at hpending
  · exact .inl ⟨rfl, rfl⟩
  · cases hpending
  · cases hpending
  · cases hpending with
    | some hwaits => exact .inr ⟨_, _, rfl, rfl, hwaits⟩

theorem Stands.with_pending (h : m.Stands rows a) {rows' : List (Nat × Obj)}
    (hdisplaced : m.displaced rows' = m.displaced rows) {pending : Option PendingRow}
    (hpending : Option.Rel m.WaitsAs (m.waiting? rows') pending) : m.Stands rows' { a with pending } := by
  refine ⟨?_, ?_, hpending⟩
  · rw [hdisplaced]
    exact h.handed
  · rw [hdisplaced]
    exact h.added

theorem displaced_nil (m : Mapping) : m.displaced [] = [] := by
  unfold displaced
  split <;> rfl

theorem waiting?_nil (m : Mapping) : m.waiting? [] = none := by
  unfold waiting?
  split <;> rfl

theorem stands_start (m : Mapping) : m.Stands [] m.start := by
  refine ⟨?_, ?_, ?_⟩
  · rw [displaced_nil]
    rfl
  · rw [displaced_nil]
    rfl
  · rw [waiting?_nil]
    exact .none

/-- **What becomes of the row of a record** in an assembly that stands after other rows. -/
inductive Step (m : Mapping) (rows : List (Nat × Obj)) (a : Assembly) (rowNo : Nat) (row : Obj) :
    Except MappingError Assembly → Prop
  /-- it cannot be grouped -/
  | refused {e : InvokeError} :
    m.GroupingFails rows row e → Step m rows a rowNo row (.error (.row rowNo relationField e))
  /-- it is grouped, and the assembly stands after it as well -/
  | taken {a' : Assembly} : (∀ e, ¬ m.GroupingFails rows row e) → m.Stands (rows ++ [(rowNo, row)]) a' →
    Step m rows a rowNo row (.ok a')
  /-- it is grouped and displaces a group that does not go into the table -/
  | stuck {firstNo : Nat} {first : Obj} {later : List (Nat × Obj)} {e : InvokeError} :
    (∀ e, ¬ m.GroupingFails rows row e) →
      m.displaced (rows ++ [(rowNo, row)]) = m.displaced rows ++ [(firstNo, first) :: later] →
      m.tablePlan.invokeTable a.table (m.groupRow ((firstNo, first) :: later)) (m.displaced rows).length = .error e →
      Step m rows a rowNo row (.error (.table firstNo e))

theorem Stands.handOver_concat (h : m.Stands rows a) {rows' group : List (Nat × Obj)}
    (hdisplaced : m.displaced rows' = m.displaced rows ++ [group]) :
    m.handOver m.table.instantiate 0 ((m.displaced rows').map m.groupRow) =
      m.tablePlan.invokeTable a.table (m.groupRow group) (m.displaced rows).length := by
  rw [hdisplaced, List.map_append, handOver_append, h.handed, List.length_map, Nat.zero_add]
  simp only [Except.bind, List.map_cons, List.map_nil, handOver]
  cases m.tablePlan.invokeTable a.table (m.groupRow group) (m.displaced rows).length <;> rfl

theorem append_step (h : m.Stands rows a) {rowNo : Nat} {row : Obj} (hok : ∀ e, ¬ m.GroupingFails rows row e)
    {firstNo : Nat} {first : Obj} {later : List (Nat × Obj)}
    (hdisplaced : m.displaced (rows ++ [(rowNo, row)]) = m.displaced rows ++ [(firstNo, first) :: later])
    {pending : Option PendingRow} (hpending : Option.Rel m.WaitsAs (m.waiting? (rows ++ [(rowNo, row)])) pending) :
    m.Step rows a rowNo row
      (m.append { a with pending } (m.groupRow ((firstNo, first) :: later)) firstNo) := by
  unfold Mapping.append
  cases hi : m.tablePlan.invokeTable a.table (m.groupRow ((firstNo, first) :: later)) a.added with
  | error e =>
    rw [h.added] at hi
    exact .stuck hok hdisplaced hi
  | ok table =>
    refine .taken hok ⟨?_, ?_, hpending⟩
    · rw [h.handOver_concat hdisplaced, ← h.added]
      exact hi
    · rw [hdisplaced, List.length_append, ← h.added]
      rfl

theorem groupRow_singleton (m : Mapping) (rowNo : Nat) (row : Obj) : m.groupRow [(rowNo, row)] = row := by
  simp only [groupRow]
  split <;> rfl

theorem groupRow_concat {g : RelationGroup} (hg : m.relation = some g) {group : List (Nat × Obj)} (hne : group ≠ [])
    (q : Nat × Obj) : m.groupRow (group ++ [q]) = (g.merge (m.groupRow group) q.2).into := by
  cases group with
  | nil => exact absurd rfl hne
  | cons p group => simp [groupRow, hg]

/-- The keys of the row that waits are compared with those of a new one as those of the group's last row would be. -/
theorem sameAll_of_waitsAs {g : RelationGroup} (hg : m.relation = some g) {group : List (Nat × Obj)} {p : PendingRow}
    (hp : m.WaitsAs group p) (hchain : group.IsChain fun a b => m.continues a b) {row : Obj} {keys : List Value}
    (hkeys : g.keyValues row = .ok keys) :
    ∀ last ∈ group.getLast?, g.sameKeys last.2 row = Value.sameAll p.keys keys := by
  obtain ⟨rowNo, first, later, rfl, -, -, hfirst⟩ := hp
  intro last hlast
  have hkeysChain : (first :: later.map Prod.snd).IsChain fun a b => g.sameKeys a b := by
    rw [← List.map_cons (f := Prod.snd) (a := (rowNo, first)), List.isChain_map]
    simpa only [continues, hg] using hchain
  have hlastRow : last.2 ∈ (first :: later.map Prod.snd).getLast? := by
    rw [← List.map_cons (f := Prod.snd) (a := (rowNo, first)), List.getLast?_map, hlast]
    rfl
  rw [← RelationGroup.sameKeys_getLast row hkeysChain last.2 hlastRow, RelationGroup.sameKeys_eq (hfirst g hg) hkeys]

/-- A row whose keys can be read is grouped, unless it goes on with the group that waits and cannot be merged. -/
theorem not_groupingFails {g : RelationGroup} (hg : m.relation = some g) {row : Obj} {keys : List Value}
    (hkeys : g.keyValues row = .ok keys)
    (hmerge : ∀ group, m.waiting? rows = some group → ∀ last ∈ group.getLast?, g.sameKeys last.2 row = true →
      (g.merge (m.groupRow group) row).outcome = .ok ()) :
    ∀ e, ¬ m.GroupingFails rows row e := by
  intro e hfails
  cases hfails with
  | keys hg' herror =>
    rw [hg] at hg'
    cases hg'
    rw [hkeys] at herror
    cases herror
  | merge hg' hwaiting hlast hsame herror =>
    rw [hg] at hg'
    cases hg'
    rw [hmerge _ hwaiting _ hlast hsame] at herror
    cases herror

theorem takeRow_step_of_no_relation (hg : m.relation = none) (h : m.Stands rows a) (rowNo : Nat) (row : Obj) :
    m.Step rows a rowNo row (m.takeRow a row rowNo) := by
  have hok : ∀ e, ¬ m.GroupingFails rows row e := by
    intro e hfails
    cases hfails with
    | keys hg' | merge hg' => simp [hg] at hg'
  have hwaits : ∀ rows : List (Nat × Obj), m.waiting? rows = none := fun rows => by simp only [waiting?, hg]
  have hpending := h.pending
  rw [hwaits, ← hwaits (rows ++ [(rowNo, row)])] at hpending
  have happend := append_step h hok (displaced_concat_of_no_relation hg) hpending
  rw [groupRow_singleton] at happend
  rw [takeRow, hg]
  exact happend

section

variable {g : RelationGroup} (hg : m.relation = some g) {row : Obj} {keys : List Value}
  (hkeys : g.keyValues row = .ok keys)

include hg hkeys

/-- A row whose keys can be read waits by itself when no group waits or when it does not go on with the one that
does. -/
theorem waits_alone {rowNo : Nat} (hq : ∀ last ∈ rows.getLast?, m.continues last (rowNo, row) = false) :
    Option.Rel m.WaitsAs (m.waiting? (rows ++ [(rowNo, row)])) (some ⟨row, keys, rowNo⟩) := by
  have hown : ∀ g', m.relation = some g' → g'.keyValues row = .ok keys := by
    intro g' hg'
    rw [hg] at hg'
    cases hg'
    exact hkeys
  rw [(displaced_concat_of_not_continues hg hq).2]
  exact .some ⟨rowNo, row, [], rfl, (m.groupRow_singleton rowNo row).symm, rfl, hown⟩

theorem step_of_first (h : m.Stands [] a) (rowNo : Nat) :
    m.Step [] a rowNo row (.ok { a with pending := some ⟨row, keys, rowNo⟩ }) := by
  have hnone : ∀ last ∈ ([] : List (Nat × Obj)).getLast?, m.continues last (rowNo, row) = false := by simp
  have hdisplaced : m.displaced ([] ++ [(rowNo, row)]) = m.displaced [] := by
    rw [(displaced_concat_of_not_continues hg hnone).1, displaced_nil]
    rfl
  have hok : ∀ e, ¬ m.GroupingFails [] row e :=
    not_groupingFails hg hkeys fun group hgroup => by simp [waiting?_nil] at hgroup
  exact .taken hok (h.with_pending hdisplaced (waits_alone hg hkeys hnone))

/-- A row that goes on with the group that waits is merged into its row, or cannot be. -/
theorem step_of_continues (h : m.Stands rows a) {group : List (Nat × Obj)} (hwaiting : m.waiting? rows = some group)
    {p : PendingRow} (hp : m.WaitsAs group p) (hsame : ∀ last ∈ group.getLast?, g.sameKeys last.2 row = true)
    (rowNo : Nat) :
    m.Step rows a rowNo row (match (g.merge p.row row).outcome with
      | .error e => .error (.row rowNo relationField e)
      | .ok () => .ok { a with pending := some { p with row := (g.merge p.row row).into } }) := by
  obtain ⟨firstNo, first, later, rfl, hrow, hno, hfirst⟩ := hp
  rw [hrow]
  cases hmerge : (g.merge (m.groupRow ((firstNo, first) :: later)) row).outcome with
  | error e =>
    have hlast := List.getLast?_eq_some_getLast (List.cons_ne_nil (firstNo, first) later)
    exact .refused (.merge hg hwaiting hlast (hsame _ hlast) hmerge)
  | ok u =>
    have hgroups := groups_eq_of_waiting hg hwaiting
    have hq : ∀ last ∈ ((firstNo, first) :: later).getLast?, m.continues last (rowNo, row) = true :=
      fun last hlast => by simpa only [continues, hg] using hsame last hlast
    obtain ⟨hdisplaced, hwaits⟩ := displaced_concat_of_continues hg hgroups hq
    refine .taken (not_groupingFails hg hkeys fun group hgroup last hlast _ => ?_) (h.with_pending hdisplaced ?_)
    · rw [hwaiting] at hgroup
      cases hgroup
      exact hmerge
    · rw [hwaits]
      exact .some ⟨firstNo, first, later ++ [(rowNo, row)], rfl,
        (groupRow_concat hg (List.cons_ne_nil _ _) (rowNo, row)).symm, hno, hfirst⟩

/-- A row that does not go on with the group that waits displaces it and waits instead. -/
theorem step_of_not_continues (h : m.Stands rows a) {group : List (Nat × Obj)} (hwaiting : m.waiting? rows = some group)
    {p : PendingRow} (hp : m.WaitsAs group p) (hsame : ∀ last ∈ group.getLast?, g.sameKeys last.2 row = false)
    (rowNo : Nat) :
    m.Step rows a rowNo row (m.append { a with pending := some ⟨row, keys, rowNo⟩ } p.row p.rowNo) := by
  obtain ⟨firstNo, first, later, rfl, hrow, hno, -⟩ := hp
  have hgroups := groups_eq_of_waiting hg hwaiting
  have hq : ∀ last ∈ rows.getLast?, m.continues last (rowNo, row) = false := by
    rw [getLast?_of_groups hgroups]
    exact fun last hlast => by simpa only [continues, hg] using hsame last hlast
  have hok : ∀ e, ¬ m.GroupingFails rows row e := by
    refine not_groupingFails hg hkeys fun group hgroup last hlast hcontinues => ?_
    rw [hwaiting] at hgroup
    cases hgroup
    rw [hsame last hlast] at hcontinues
    cases hcontinues
  rw [hrow, hno]
  refine append_step h hok ?_ (waits_alone hg hkeys hq)
  rw [(displaced_concat_of_not_continues hg hq).1, hgroups]

end

/-- **One row more**: what becomes of it is decided by its keys, by the group that waits and by the table. -/
theorem takeRow_step (h : m.Stands rows a) (rowNo : Nat) (row : Obj) :
    m.Step rows a rowNo row (m.takeRow a row rowNo) := by
  cases hg : m.relation with
  | none => exact takeRow_step_of_no_relation hg h rowNo row
  | some g =>
    rw [takeRow, hg]
    simp only [RelationGroup.fold]
    cases hkeys : g.keyValues row with
    | error e => exact .refused (.keys hg hkeys)
    | ok keys =>
      rcases h.waiting_cases with ⟨hwaiting, hp⟩ | ⟨group, p, hwaiting, hp, hwaits⟩
      · obtain rfl := nil_of_no_waiting hg hwaiting
        rw [hp]
        exact step_of_first hg hkeys h rowNo
      · have hmem : group ∈ m.groups rows := by simp [groups_eq_of_waiting hg hwaiting]
        have hsame := sameAll_of_waitsAs hg hwaits (List.isChain_of_mem_splitBy hmem) hkeys
        rw [hp]
        simp only
        cases hs : Value.sameAll p.keys keys with
        | false =>
          rw [hs] at hsame
          exact step_of_not_continues hg hkeys h hwaiting hwaits hsame rowNo
        | true =>
          rw [hs] at hsame
          have hstep := step_of_continues hg hkeys h hwaiting hwaits hsame rowNo
          simp only [if_true]
          cases ho : (g.merge p.row row).outcome with
          | error e =>
            rw [ho] at hstep
            exact hstep
          | ok u =>
            rw [ho] at hstep
            exact hstep

/-! ### Runs -/

theorem error_of_fillFieldAnew {rowNo : Nat} {row : Obj} {field : String} {v : Value} {e : MappingError}
    (h : m.fillFieldAnew rowNo row field v = .error e) : ∃ cause, e = .row rowNo field cause := by
  unfold fillFieldAnew at h
  split at h
  · split at h
    · cases h
    · cases h
      exact ⟨_, rfl⟩
  · split at h
    · cases h
    · split at h
      · cases h
        exact ⟨_, rfl⟩
      · split at h
        · cases h
        · cases h
          exact ⟨_, rfl⟩

theorem fillFieldsAnew_append (rowNo : Nat) : ∀ (fields more : List (String × Value)) (row : Obj),
    m.fillFieldsAnew rowNo row (fields ++ more) =
      (m.fillFieldsAnew rowNo row fields).bind fun row' => m.fillFieldsAnew rowNo row' more
  | [], _, _ => rfl
  | (field, v) :: fields, more, row => by
    rw [List.cons_append, fillFieldsAnew, fillFieldsAnew]
    cases m.fillFieldAnew rowNo row field v with
    | error e => rfl
    | ok row' => exact fillFieldsAnew_append rowNo fields more row'

/-- **Filling fields fails at the first one that does not go into the row.** -/
theorem exists_of_fillFieldsAnew_error {rowNo : Nat} {e : MappingError} :
    ∀ {fields : List (String × Value)} {row : Obj}, m.fillFieldsAnew rowNo row fields = .error e →
      ∃ filled field v left row', fields = filled ++ (field, v) :: left ∧
        m.fillFieldsAnew rowNo row filled = .ok row' ∧ m.fillFieldAnew rowNo row' field v = .error e
  | [], row, h => by cases h
  | (field, v) :: fields, row, h => by
    rw [fillFieldsAnew] at h
    cases hf : m.fillFieldAnew rowNo row field v with
    | error e' =>
      rw [hf] at h
      cases h
      exact ⟨[], field, v, fields, row, rfl, rfl, hf⟩
    | ok row' =>
      rw [hf] at h
      obtain ⟨filled, field', v', left, row'', rfl, hfilled, hfails⟩ := exists_of_fillFieldsAnew_error h
      refine ⟨(field, v) :: filled, field', v', left, row'', rfl, ?_, hfails⟩
      rw [fillFieldsAnew, hf]
      exact hfilled

theorem GroupingFails.eq {row : Obj} {e e' : InvokeError} (h : m.GroupingFails rows row e)
    (h' : m.GroupingFails rows row e') : e = e' := by
  cases h with
  | keys hg hkeys =>
    cases h' with
    | keys hg' hkeys' =>
      cases hg.symm.trans hg'
      cases hkeys.symm.trans hkeys'
      rfl
    | merge hg' _ _ hsame' _ =>
      cases hg.symm.trans hg'
      simp [RelationGroup.sameKeys, hkeys] at hsame'
  | merge hg hwaiting hlast hsame hmerge =>
    cases h' with
    | keys hg' hkeys' =>
      cases hg.symm.trans hg'
      simp [RelationGroup.sameKeys, hkeys'] at hsame
    | merge hg' hwaiting' _ _ hmerge' =>
      cases hg.symm.trans hg'
      cases hwaiting.symm.trans hwaiting'
      cases hmerge.symm.trans hmerge'
      rfl

/-- No row takes back what others have displaced. -/
theorem displaced_prefix (m : Mapping) (rows : List (Nat × Obj)) (q : Nat × Obj) :
    m.displaced rows <+: m.displaced (rows ++ [q]) := by
  cases hg : m.relation with
  | none =>
    rw [displaced_concat_of_no_relation hg]
    exact List.prefix_append _ _
  | some g =>
    cases hwaiting : m.waiting? rows with
    | none =>
      obtain rfl := nil_of_no_waiting hg hwaiting
      rw [displaced_nil]
      exact List.nil_prefix
    | some group =>
      have hgroups := groups_eq_of_waiting hg hwaiting
      by_cases hq : ∀ last ∈ group.getLast?, m.continues last q = true
      · rw [(displaced_concat_of_continues hg hgroups hq).1]
      · have hbreak : ∀ last ∈ rows.getLast?, m.continues last q = false := by
          rw [getLast?_of_groups hgroups]
          intro last hlast
          simp only [Option.mem_def] at hq hlast
          simpa [hlast] using hq
        rw [(displaced_concat_of_not_continues hg hbreak).1, hgroups]
        exact List.prefix_append _ _

theorem takeRow_of_groupingFails (h : m.Stands rows a) {rowNo : Nat} {row : Obj} {e : InvokeError}
    (hfails : m.GroupingFails rows row e) : m.takeRow a row rowNo = .error (.row rowNo relationField e) := by
  have hstep := takeRow_step h rowNo row
  cases htake : m.takeRow a row rowNo with
  | ok a' =>
    rw [htake] at hstep
    cases hstep with
    | taken hok _ => exact absurd hfails (hok e)
  | error e' =>
    rw [htake] at hstep
    cases hstep with
    | refused hfails' => rw [hfails.eq hfails']
    | stuck hok _ _ => exact absurd hfails (hok e)

theorem takeRow_of_displaced (h : m.Stands rows a) {rowNo : Nat} {row : Obj} (hok : ∀ e, ¬ m.GroupingFails rows row e)
    {firstNo : Nat} {first : Obj} {later : List (Nat × Obj)}
    (hdisplaced : m.displaced (rows ++ [(rowNo, row)]) = m.displaced rows ++ [(firstNo, first) :: later])
    {cause : InvokeError}
    (hfails : m.tablePlan.invokeTable a.table (m.groupRow ((firstNo, first) :: later)) (m.displaced rows).length =
      .error cause) :
    m.takeRow a row rowNo = .error (.table firstNo cause) := by
  have hstep := takeRow_step h rowNo row
  cases htake : m.takeRow a row rowNo with
  | ok a' =>
    rw [htake] at hstep
    cases hstep with
    | taken _ hstands =>
      have hhanded := hstands.handed
      rw [h.handOver_concat hdisplaced, hfails] at hhanded
      cases hhanded
  | error e' =>
    rw [htake] at hstep
    cases hstep with
    | refused hfails' => exact absurd hfails' (hok _)
    | stuck _ hdisplaced' hfails' =>
      cases List.append_cancel_left (hdisplaced.symm.trans hdisplaced')
      cases hfails.symm.trans hfails'
      rfl

/-- **A run over records that are done goes on from an assembly that stands after their rows.** -/
theorem exists_stands {records : List (Nat × Record)} (h : m.Taken records rows) : ∀ {table : Obj},
    m.handOver m.table.instantiate 0 ((m.displaced rows).map m.groupRow) = .ok table →
      ∃ a, m.Stands rows a ∧ ∀ after, m.mapRecordsAnew m.start (records ++ after) = m.mapRecordsAnew a after := by
  induction h with
  | nil => exact fun _ => ⟨m.start, m.stands_start, fun after => rfl⟩
  | @concat records rows rowNo record row htaken hrow hok ih =>
    intro table hhanded
    obtain ⟨more, hmore⟩ := m.displaced_prefix rows (rowNo, row)
    have hbefore := hhanded
    -- the groups displaced before this row are among those that were handed over
    rw [← hmore, List.map_append, handOver_append] at hbefore
    obtain ⟨table', htable', -⟩ := bind_eq_ok hbefore
    obtain ⟨a, ha, hrun⟩ := ih htable'
    have hstep := takeRow_step ha rowNo row
    cases htake : m.takeRow a row rowNo with
    | ok a' =>
      rw [htake] at hstep
      cases hstep with
      | taken _ hstands =>
        refine ⟨a', hstands, fun after => ?_⟩
        rw [List.append_assoc, List.singleton_append, hrun, mapRecordsAnew, hrow]
        simp only [htake]
    | error e =>
      rw [htake] at hstep
      cases hstep with
      | refused hfails => exact absurd hfails (hok _)
      | stuck _ hdisplaced hfails =>
        rw [ha.handOver_concat hdisplaced, hfails] at hhanded
        cases hhanded

/-- **The end of a run fails when the group that waits does not go into the table.** -/
theorem finish_eq_error_iff (h : m.Stands rows a) {e : MappingError} :
    m.finish a = .error e ↔ ∃ firstNo first later cause, m.waiting? rows = some ((firstNo, first) :: later) ∧
      m.tablePlan.invokeTable a.table (m.groupRow ((firstNo, first) :: later)) (m.displaced rows).length =
        .error cause ∧ e = .table firstNo cause := by
  unfold Mapping.finish
  rcases h.waiting_cases with ⟨hwaiting, hp⟩ | ⟨group, p, hwaiting, hp, hwaits⟩
  · simp [hp, hwaiting]
  · obtain ⟨firstNo, first, later, rfl, hrow, rfl, -⟩ := hwaits
    rw [hp, hwaiting]
    simp only [Mapping.append, hrow, h.added]
    cases hi : m.tablePlan.invokeTable a.table (m.groupRow ((p.rowNo, first) :: later)) (m.displaced rows).length with
    | ok table => simp [hi]
    | error cause => simp [hi, eq_comm]

theorem fails_of_mapRecordsAnew_error : ∀ {after before : List (Nat × Record)} {rows : List (Nat × Obj)} {a : Assembly}
    {e : MappingError}, m.Taken before rows → m.Stands rows a → m.mapRecordsAnew a after = .error e →
      m.Fails (before ++ after) e
  | [], before, rows, a, e, htaken, ha, h => by
    obtain ⟨firstNo, first, later, cause, hwaiting, hfails, rfl⟩ := (finish_eq_error_iff ha).1 h
    rw [List.append_nil]
    exact .last ⟨htaken, ha.handed⟩ hwaiting hfails
  | (rowNo, record) :: after, before, rows, a, e, htaken, ha, h => by
    have hdone : m.Done before rows a.table := ⟨htaken, ha.handed⟩
    rw [mapRecordsAnew] at h
    cases hrow : m.fillRowAnew rowNo record with
    | error e' =>
      rw [hrow] at h
      cases h
      obtain ⟨filled, field, v, left, row, hfields, hfilled, hfails⟩ := exists_of_fillFieldsAnew_error hrow
      obtain ⟨cause, rfl⟩ := error_of_fillFieldAnew hfails
      exact .field rfl hdone hfields hfilled hfails
    | ok row =>
      rw [hrow] at h
      simp only at h
      have hstep := takeRow_step ha rowNo row
      cases htake : m.takeRow a row rowNo with
      | error e' =>
        rw [htake] at h hstep
        cases h
        cases hstep with
        | refused hfails => exact .grouping rfl hdone hrow hfails
        | stuck hok hdisplaced hfails => exact .displaced rfl hdone hrow hok hdisplaced hfails
      | ok a' =>
        rw [htake] at h hstep
        cases hstep with
        | taken hok hstands =>
          have := fails_of_mapRecordsAnew_error (htaken.concat hrow hok) hstands h
          rwa [List.append_assoc, List.singleton_append] at this

/-- **A run fails with the failure that comes first**, and only with it. -/
theorem mapRecordsAnew_eq_error_iff {window : List (Nat × Record)} {e : MappingError} :
    m.mapRecordsAnew m.start window = .error e ↔ m.Fails window e := by
  constructor
  · exact fun h => fails_of_mapRecordsAnew_error .nil m.stands_start h
  · intro h
    cases h with
    | @field before after rowNo record rows table filled left field v row cause hwindow hdone hfields hfilled hfails =>
      obtain ⟨a, -, hrun⟩ := exists_stands hdone.taken hdone.handed
      have hrow : m.fillRowAnew rowNo record = .error (.row rowNo field cause) := by
        rw [fillRowAnew, hfields, fillFieldsAnew_append, hfilled]
        simp only [Except.bind, fillFieldsAnew, hfails]
      rw [hwindow, hrun, mapRecordsAnew, hrow]
    | @grouping before after rowNo record rows table row cause hwindow hdone hrow hfails =>
      obtain ⟨a, ha, hrun⟩ := exists_stands hdone.taken hdone.handed
      rw [hwindow, hrun, mapRecordsAnew, hrow]
      simp only [takeRow_of_groupingFails ha hfails]
    | @displaced before after rowNo record rows table row firstNo first later cause hwindow hdone hrow hok hdisplaced
        hfails =>
      obtain ⟨a, ha, hrun⟩ := exists_stands hdone.taken hdone.handed
      cases ha.handed.symm.trans hdone.handed
      rw [hwindow, hrun, mapRecordsAnew, hrow]
      simp only [takeRow_of_displaced ha hok hdisplaced hfails]
    | @last rows table firstNo first later cause hdone hwaiting hfails =>
      obtain ⟨a, ha, hrun⟩ := exists_stands hdone.taken hdone.handed
      have := hrun []
      rw [List.append_nil] at this
      cases ha.handed.symm.trans hdone.handed
      rw [this]
      exact (finish_eq_error_iff ha).2 ⟨firstNo, first, later, cause, hwaiting, hfails, rfl⟩

end Mapping

/-! ### Runs of a mapper -/

theorem getElem?_of_mem_numberFrom {α : Type} {p : Nat × α} : ∀ {xs : List α} {n : Nat},
    p ∈ numberFrom n xs → ∃ i, p.1 = n + i ∧ xs[i]? = some p.2
  | [], _, h => by cases h
  | x :: xs, n, h => by
    rcases List.mem_cons.1 h with rfl | h
    · exact ⟨0, rfl, rfl⟩
    · obtain ⟨i, hi, hx⟩ := getElem?_of_mem_numberFrom h
      exact ⟨i + 1, by omega, by simpa using hx⟩

theorem getElem?_of_mem_windowed {α : Type} {records : List α} {start size : Nat} {p : Nat × α}
    (h : p ∈ windowed start size records) : records[p.1]? = some p.2 := by
  unfold windowed at h
  split at h
  · obtain ⟨i, hi, hx⟩ := getElem?_of_mem_numberFrom h
    rw [hi, Nat.zero_add, hx]
  · obtain ⟨i, hi, hx⟩ := getElem?_of_mem_numberFrom h
    rw [List.getElem?_take] at hx
    split at hx
    · rw [hi, ← hx, List.getElem?_drop]
    · cases hx

/-- **A run fails with an error exactly when `Fails` says so**, and gives a table when there is no such error; the
numbers in errors are those of the records of the window among all records. -/
theorem Mapper.run_eq_error_iff {m : Mapper} (hm : m.Reachable) {mapping : Mapping}
    (hmapping : Mapping.compile m.config = .ok mapping) (records : List Record) (start size : Nat) :
    (∀ e, (m.run records start size).2 = .error e ↔ mapping.Fails (windowed start size records) e) ∧
      ((∀ e, ¬ mapping.Fails (windowed start size records) e) → ∃ t, (m.run records start size).2 = .ok t) ∧
      ∀ p ∈ windowed start size records, records[p.1]? = some p.2 := by
  have hout := (hm.current.run records start size).1
  simp only [MappingConfig.outcome, hmapping] at hout
  have hfails : ∀ e, (m.run records start size).2 = .error e ↔ mapping.Fails (windowed start size records) e := by
    intro e
    rw [← Mapping.mapRecordsAnew_eq_error_iff]
    cases hrun : (m.run records start size).2 <;>
      cases hmap : mapping.mapRecordsAnew mapping.start (windowed start size records) <;>
      simp_all [Except.map]
  refine ⟨hfails, fun hnone => ?_, fun p hp => getElem?_of_mem_windowed hp⟩
  cases hrun : (m.run records start size).2 with
  | error e => exact absurd ((hfails e).1 hrun) (hnone e)
  | ok t => exact ⟨t, rfl⟩

/-- Lists of the numbers of orders, which every order must have. -/
def numberListClass : Class := (Class.ofEntity "Numbers" 0).withRecorder "note" [.long] [⟨.long, false⟩] "number"

def Mapper.orderNumbers : Mapper :=
  (ofClasses numberListClass orderClass).setAll
    [.fill "note(row.id)", .rowFill "setter(colValue)", .relationKeys "id"]

/-- The orders at places 1 and 2 have no number and make a group, which the order 8 displaces: the error is about the
first record of the group, not about the one that displaces it nor the place in the window. -/
theorem Mapper.run_eq_error_iff_orderNumbers :
    let line (id : Value) (sku : String) : Record := [("o", .node [("id", id), ("lines.sku", .text sku)])]
    let records := [line (.long 7) "a", line .null "b", line .null "c", line (.long 8) "d"]
    let e := MappingError.table 1 (.value (.mismatch "long" "null"))
    ∃ mapping, orderNumbers.Reachable ∧ Mapping.compile orderNumbers.config = .ok mapping ∧
      mapping.relation.isSome ∧ (orderNumbers.run records 1 3).2 = .error e ∧
      mapping.Fails (windowed 1 3 records) e ∧ records[1]? = some (line .null "b") := by
  intro line records e
  have hreachable : orderNumbers.Reachable :=
    ⟨[.set (.table numberListClass), .set (.row orderClass), .set (.fill "note(row.id)"),
      .set (.rowFill "setter(colValue)"), .set (.relationKeys "id")], rfl⟩
  obtain ⟨mapping, hmapping, hrelation, hrun⟩ : ∃ mapping, Mapping.compile orderNumbers.config = .ok mapping ∧
      mapping.relation.isSome ∧ (orderNumbers.run records 1 3).2 = .error e := ⟨_, rfl, rfl, rfl⟩
  obtain ⟨hfails, -, hplaces⟩ := run_eq_error_iff hreachable hmapping records 1 3
  exact ⟨mapping, hreachable, hmapping, hrelation, hrun, (hfails e).1 hrun, hplaces (1, _) (List.mem_cons_self)⟩

end QueryRows
