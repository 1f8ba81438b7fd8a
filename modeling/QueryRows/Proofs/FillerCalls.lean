import Mathlib.Data.List.Forall2
import QueryRows.Class.Builder
import QueryRows.Fill.Compile
import QueryRows.Proofs.Results
/-!
# FillerCalls — what a compiled filler calls, and with what

A plan that a filler compiles to fits its method: it has a source for each declared parameter, and each source has
something to hand over (`FillPlan.ForTable`, `FillPlan.ForRow`).  So carrying the plan out either fails before the
method is called, on a row count that does not fit or a path that cannot be read, or calls the method with every
argument in its place (`compiled_fillers`).
-/
namespace QueryRows

/-! ### Arguments in their places -/

/-- What a method does with arguments that are as many as its parameters. -/
def Method.perform (m : Method) (o : Obj) (args : List (Arg Obj)) : Except InvokeError Obj :=
  if o.type ≠ m.owner then .error (.targetMismatch m.name) else m.run o args

/-- **A row count as a kind takes it**: an int where an int is declared, and a long elsewhere. -/
inductive CountValue (count : Nat) : Kind → Value → Prop
  | int {n : Int32} : n.toInt = count → CountValue count .int (.int n)
  | long {kind : Kind} {n : Int64} : kind ≠ .int → n.toInt = count → CountValue count kind (.long n)

/-- How many row counts there is room for in a kind. -/
def Kind.countRoom : Kind → Nat
  | .int => 2 ^ 31
  | _ => 2 ^ 63

/-- **The argument of a table operation at the place of a source**: the row itself, the row count, or what a path reads
from the row. -/
inductive TableArgument (row : Obj) (added : Nat) : ParamSource → Kind → Arg Obj → Prop
  | row {kind : Kind} : TableArgument row added .row kind (.object row)
  | count {kind : Kind} {v : Value} : CountValue added kind v → TableArgument row added .ordinal kind (.value v)
  | field {path : FieldPath} {kind : Kind} {v : Value} :
    path.read row = .ok v → TableArgument row added (.field path) kind (.value v)

/-- **Why there is no argument at the place of a source**: a row count that the kind has no room for, or a path that
cannot be read. -/
inductive TableFault (row : Obj) (added : Nat) : ParamSource → Kind → InvokeError → Prop
  | count {kind : Kind} : kind.countRoom ≤ added →
    TableFault row added .ordinal kind (.value (.outOfRange (toString added) "row ordinal"))
  | field {path : FieldPath} {kind : Kind} {e : InvokeError} :
    path.read row = .error e → TableFault row added (.field path) kind e

/-- The argument of a row operation at the place of a source: the field's value or its name. -/
inductive RowArgument (field : String) (v : Value) : ParamSource → Arg Obj → Prop
  | value : RowArgument field v .value (.value v)
  | name : RowArgument field v .name (.value (.text field))

def ParamSource.isRow : ParamSource → Bool
  | .row => true
  | _ => false

/-- A source that a table filler may name. -/
def ParamSource.isOfTable : ParamSource → Bool
  | .row | .ordinal | .field _ => true
  | .value | .name => false

namespace FillPlan

/-- **The plan's method is the one that its filler names on a class**: a method of the class, of that name up to case
and underscores, with one parameter for each source. -/
structure NamedOn (p : FillPlan) (spec : String) (c : Class) : Prop where
  method_mem : p.method ∈ c.methods
  name_eq : ∃ call, Call.parse spec.toList = .ok call ∧ memberKey p.method.name = memberKey call.name
  arity_eq : p.method.arity = p.params.length

/-- **Handing a row over fails before any table is touched**, for a fault at the place of one of the sources. -/
def FailsBefore (p : FillPlan) (row : Obj) (added : Nat) (fault : ParamSource → Kind → InvokeError → Prop) : Prop :=
  ∃ source kind e, (source, kind) ∈ p.params.zip p.method.params ∧ fault source kind e ∧
    ∀ t, p.invokeTable t row added = .error e

/-- **Handing a row over performs the method once**, on every table with the same arguments, each in its place. -/
def PerformsOnce (p : FillPlan) (row : Obj) (added : Nat) : Prop :=
  ∃ args, List.Forall₂ (fun q a => TableArgument row added q.1 q.2 a) (p.params.zip p.method.params) args ∧
    ∀ t, p.invokeTable t row added = p.method.perform t args

/-- **A plan that fills a table.**  At most one of its sources is the row, and none is the value or the name of a
field; handing a row over fails for a fault of a source or performs the method, and only the method itself may complain
of the number of its arguments. -/
structure ForTable (p : FillPlan) (spec : String) (table : Class) : Prop extends p.NamedOn spec table where
  row_once : p.params.countP ParamSource.isRow ≤ 1
  of_table : ∀ q ∈ p.params, q.isOfTable = true
  handOver : ∀ row added, p.FailsBefore row added (TableFault row added) ∨ p.PerformsOnce row added
  arity_own : ∀ t row added name expected found, p.invokeTable t row added = .error (.arity name expected found) →
    ∃ args, p.method.run t args = .error (.arity name expected found)

/-- **A plan that fills a row**: for every field the method is performed with the value and the name in their
places. -/
structure ForRow (p : FillPlan) (spec : String) (c : Class) : Prop extends p.NamedOn spec c where
  of_row : ∀ q ∈ p.params, q = .value ∨ q = .name
  handOver : ∀ row field v, ∃ args, List.Forall₂ (RowArgument field v) p.params args ∧
    p.invokeRow row field v = p.method.perform row args
  arity_own : ∀ row field v name expected found, p.invokeRow row field v = .error (.arity name expected found) →
    ∃ args, p.method.run row args = .error (.arity name expected found)

end FillPlan

/-! ### Choosing the method -/

theorem mem_of_chooseMethod {c : Class} {name : String} {kinds : List Kind} {retry : Option (List Kind)} {m : Method}
    (h : chooseMethod c name kinds retry = .ok m) : m ∈ c.methodsNamed name kinds.length := by
  have hmatching : ∀ {candidates : List Method} {ks : List Kind} {chosen : Method},
      matching candidates ks = [chosen] → chosen ∈ candidates := fun hm =>
    (List.mem_filter.1 (hm ▸ List.mem_singleton.2 rfl)).1
  unfold chooseMethod at h
  split at h
  · cases h
  · rename_i only hone
    cases h
    rw [hone]
    exact List.mem_singleton.2 rfl
  · split at h
    · rename_i hm
      cases h
      exact hmatching hm
    · cases h
    · split at h
      · rename_i hm
        cases h
        exact hmatching hm
      · cases h

/-- A method that was chosen makes a plan with one source for each kind that it was chosen by. -/
theorem namedOn_of_chooseMethod {c : Class} {spec : String} {call : Call} {params : List ParamSource}
    {kindOf : ParamSource → Kind} {retry : Option (List Kind)} {m : Method} (hcall : Call.parse spec.toList = .ok call)
    (h : chooseMethod c call.name (params.map kindOf) retry = .ok m) :
    FillPlan.NamedOn ⟨m, params, none⟩ spec c := by
  have hmem := mem_of_chooseMethod h
  unfold Class.methodsNamed at hmem
  rw [List.mem_filter, Bool.and_eq_true, beq_iff_eq, List.length_map] at hmem
  obtain ⟨hmethods, harity, hname⟩ := hmem
  exact ⟨hmethods, ⟨call, hcall, eq_of_beq hname⟩, harity⟩

/-! ### The sources of a table filler -/

theorem isOfTable_of_tableParam {spec arg : String} {row : Class} {q : ParamSource}
    (h : tableParam spec row arg = .ok q) : q.isOfTable = true := by
  unfold tableParam at h
  split at h
  · cases h
    rfl
  · split at h
    · cases h
      rfl
    · split at h
      · obtain ⟨p, -, rfl⟩ := map_eq_ok h
        rfl
      · cases h

theorem countP_of_hasRow {params : List ParamSource} (h : hasRow params = false) :
    params.countP ParamSource.isRow = 0 := by
  unfold hasRow at h
  rw [List.any_eq_false] at h
  refine List.countP_eq_zero.2 fun q hq => ?_
  have := h q hq
  cases q <;> first | exact absurd rfl this | exact Bool.false_ne_true

/-- **Sources that were compiled one after the other** are sources of tables, and at most one of them is the row. -/
theorem of_tableParams {spec : String} {row : Class} : ∀ {args : List String} {seen params : List ParamSource},
    tableParams spec row seen args = .ok params → seen.countP ParamSource.isRow ≤ 1 →
      (∀ q ∈ seen, q.isOfTable = true) →
      params.countP ParamSource.isRow ≤ 1 ∧ ∀ q ∈ params, q.isOfTable = true
  | [], _, _, h, hrow, hall => by
    cases h
    exact ⟨hrow, hall⟩
  | arg :: args, seen, params, h, hrow, hall => by
    have hmore : ∀ {q : ParamSource}, q.isOfTable = true → ∀ x ∈ seen ++ [q], x.isOfTable = true := by
      intro q hq x hx
      rcases List.mem_append.1 hx with hx | hx
      · exact hall x hx
      · rw [List.mem_singleton.1 hx]
        exact hq
    rw [tableParams] at h
    split at h
    · cases h
    · split at h
      · cases h
      · rename_i hnone
        refine of_tableParams h ?_ (hmore rfl)
        rw [List.countP_append, countP_of_hasRow (by simpa using hnone)]
        decide
    · rename_i q hother hq
      refine of_tableParams h ?_ (hmore (isOfTable_of_tableParam hq))
      rw [List.countP_append]
      cases q with
      | row => exact absurd rfl hother
      | _ => exact hrow

/-! ### The sources of a row filler -/

theorem of_rowParam {spec arg : String} {q : ParamSource} (h : rowParam spec arg = .ok q) :
    q = .value ∨ q = .name := by
  unfold rowParam at h
  split at h
  · cases h
    exact .inl rfl
  · split at h
    · cases h
      exact .inr rfl
    · cases h

theorem of_rowParams {spec : String} : ∀ {args : List String} {params : List ParamSource},
    args.mapM (rowParam spec) = .ok params → ∀ q ∈ params, q = .value ∨ q = .name
  | [], _, h => by
    cases h
    exact fun q hq => absurd hq List.not_mem_nil
  | arg :: args, params, h => by
    rw [List.mapM_cons] at h
    obtain ⟨q, hq, h⟩ := bind_eq_ok h
    obtain ⟨rest, hrest, h⟩ := bind_eq_ok h
    cases h
    exact List.forall_mem_cons.2 ⟨of_rowParam hq, of_rowParams hrest⟩

/-! ### The arguments of a call -/

theorem Method.invoke_of_length {m : Method} {args : List (Arg Obj)} (h : args.length = m.arity) (o : Obj) :
    m.invoke o args = m.perform o args := if_neg (not_not.2 h)

/-- **A row count is handed over** in a kind that has room for it, and in no other. -/
theorem ordinalValue_cases (count : Nat) (kind : Kind) :
    (kind.countRoom ≤ count ∧
      FillPlan.ordinalValue count kind = .error (.value (.outOfRange (toString count) "row ordinal"))) ∨
    ∃ v, CountValue count kind v ∧ FillPlan.ordinalValue count kind = .ok v := by
  unfold FillPlan.ordinalValue
  split
  · split
    · rename_i hroom
      exact .inr ⟨_, .int (Int32.toInt_ofNat_of_lt hroom), rfl⟩
    · rename_i hroom
      exact .inl ⟨Nat.le_of_not_lt hroom, rfl⟩
  · rename_i hint
    split
    · rename_i hroom
      exact .inr ⟨_, .long hint (Int64.toInt_ofNat_of_lt hroom), rfl⟩
    · rename_i hroom
      refine .inl ⟨?_, rfl⟩
      cases kind <;> first | exact absurd rfl hint | exact Nat.le_of_not_lt hroom

/-- A path can only fail at its getter, on an object of another type. -/
theorem targetMismatch_of_readThrough {g : Getter} {e : InvokeError} : ∀ {hops : List (Nested Class)} {o : Obj},
    readThrough g hops o = .error e → e = .targetMismatch g.name
  | [], o, h => by
    rw [readThrough, Getter.read] at h
    split at h
    · cases h
    · cases h
      rfl
  | n :: hops, o, h => by
    rw [readThrough] at h
    split at h
    · exact targetMismatch_of_readThrough h
    · cases h

/-- What comes of reading the sources of a table filler: a fault of one of them, or every argument in its place. -/
def TableArguments (row : Obj) (added : Nat) (sources : List (ParamSource × Kind))
    (result : Except InvokeError (List (Arg Obj))) : Prop :=
  (∃ q ∈ sources, ∃ e, TableFault row added q.1 q.2 e ∧ result = .error e) ∨
    ∃ args, List.Forall₂ (fun q a => TableArgument row added q.1 q.2 a) sources args ∧ result = .ok args

namespace TableArguments

variable {row : Obj} {added : Nat} {q : ParamSource × Kind} {sources : List (ParamSource × Kind)}
  {result : Except InvokeError (List (Arg Obj))}

theorem fault {e : InvokeError} (h : TableFault row added q.1 q.2 e) :
    TableArguments row added (q :: sources) (.error e) := .inl ⟨q, List.mem_cons_self, e, h, rfl⟩

theorem cons {a : Arg Obj} (ha : TableArgument row added q.1 q.2 a) (h : TableArguments row added sources result) :
    TableArguments row added (q :: sources) (result.map (a :: ·)) := by
  rcases h with ⟨p, hp, e, hfault, rfl⟩ | ⟨args, hargs, rfl⟩
  · exact .inl ⟨p, List.mem_cons_of_mem q hp, e, hfault, rfl⟩
  · exact .inr ⟨a :: args, .cons ha hargs, rfl⟩

end TableArguments

/-- **The sources of a table filler are read one by one.**  The row is still here at its place, since at most one
source asks for it and none takes it away before. -/
theorem tableArguments_of_sources {row : Obj} {added : Nat} : ∀ {here : Bool} {sources : List (ParamSource × Kind)},
    (∀ q ∈ sources, q.1.isOfTable = true) → (sources.map Prod.fst).countP ParamSource.isRow ≤ here.toNat →
      TableArguments row added sources (FillPlan.tableArguments row added here sources)
  | here, [], _, _ => .inr ⟨[], .nil, rfl⟩
  | here, (source, kind) :: rest, hall, hrow => by
    have hrest : ∀ q ∈ rest, q.1.isOfTable = true := fun q hq => hall q (List.mem_cons_of_mem _ hq)
    cases source with
    | row =>
      rw [List.map_cons, List.countP_cons_of_pos rfl] at hrow
      have hhere : here = true := by
        cases here with
        | true => rfl
        | false => exact absurd hrow (Nat.not_succ_le_zero _)
      rw [hhere] at hrow ⊢
      exact .cons .row (tableArguments_of_sources hrest (Nat.le_of_succ_le_succ hrow))
    | ordinal =>
      have hargs : TableArguments row added rest (FillPlan.tableArguments row added here rest) :=
        tableArguments_of_sources hrest hrow
      rw [FillPlan.tableArguments]
      rcases ordinalValue_cases added kind with ⟨hroom, hv⟩ | ⟨v, hv, hok⟩
      · rw [hv]
        exact .fault (.count hroom)
      · rw [hok]
        exact .cons (.count hv) hargs
    | field path =>
      have hargs : TableArguments row added rest (FillPlan.tableArguments row added here rest) :=
        tableArguments_of_sources hrest hrow
      rw [FillPlan.tableArguments]
      cases hread : path.read row with
      | error e => exact .fault (.field hread)
      | ok v => exact .cons (.field hread) hargs
    | value => exact absurd (hall _ List.mem_cons_self) Bool.false_ne_true
    | name => exact absurd (hall _ List.mem_cons_self) Bool.false_ne_true

theorem rowArguments_of_sources {field : String} {v : Value} {params : List ParamSource}
    (h : ∀ q ∈ params, q = .value ∨ q = .name) :
    List.Forall₂ (RowArgument field v) params (params.map (FillPlan.rowArgument field v)) := by
  rw [List.forall₂_map_right_iff, List.forall₂_same]
  intro q hq
  rcases h q hq with rfl | rfl
  · exact .value
  · exact .name

/-! ### The plans that are compiled -/

namespace Method

/-- Performing a method fails with a wrong number of arguments only where the method itself says so. -/
theorem run_of_perform_arity {m : Method} {o : Obj} {args : List (Arg Obj)} {name : String} {expected found : Nat}
    (h : m.perform o args = .error (.arity name expected found)) :
    m.run o args = .error (.arity name expected found) := by
  unfold perform at h
  split at h
  · cases h
  · exact h

end Method

namespace FillPlan

theorem forTable_of_sources {p : FillPlan} {spec : String} {table : Class} (hnamed : p.NamedOn spec table)
    (hrow : p.params.countP ParamSource.isRow ≤ 1) (hall : ∀ q ∈ p.params, q.isOfTable = true) :
    p.ForTable spec table := by
  have harity : p.params.length = p.method.params.length := hnamed.arity_eq.symm
  have hfst : (p.params.zip p.method.params).map Prod.fst = p.params := List.map_fst_zip (Nat.le_of_eq harity)
  have hread : ∀ row added, TableArguments row added (p.params.zip p.method.params)
      (tableArguments row added true (p.params.zip p.method.params)) := fun row added =>
    tableArguments_of_sources (fun q hq => hall q.1 (List.of_mem_zip hq).1) (by rw [hfst]; exact hrow)
  have hover : ∀ row added, p.FailsBefore row added (TableFault row added) ∨ p.PerformsOnce row added := by
    intro row added
    unfold FailsBefore PerformsOnce invokeTable
    rcases hread row added with ⟨q, hq, e, hfault, hargs⟩ | ⟨args, hplaces, hargs⟩
    · exact .inl ⟨q.1, q.2, e, hq, hfault, fun t => by rw [hargs]⟩
    · have hlength : args.length = p.method.arity := by
        rw [← hplaces.length_eq, List.length_zip, harity, Nat.min_self]
        rfl
      exact .inr ⟨args, hplaces, fun t => by rw [hargs]; exact Method.invoke_of_length hlength t⟩
  refine ⟨hnamed, hrow, hall, hover, fun t row added name expected found h => ?_⟩
  rcases hover row added with ⟨source, kind, e, _, hfault, hfails⟩ | ⟨args, _, hperforms⟩
  · rw [hfails t] at h
    cases h
    cases hfault with
    | field hpath => cases targetMismatch_of_readThrough hpath
  · rw [hperforms t] at h
    exact ⟨args, Method.run_of_perform_arity h⟩

theorem forRow_of_sources {p : FillPlan} {spec : String} {c : Class} (hnamed : p.NamedOn spec c)
    (hall : ∀ q ∈ p.params, q = .value ∨ q = .name) : p.ForRow spec c := by
  have hperforms : ∀ row field v,
      p.invokeRow row field v = p.method.perform row (p.params.map (rowArgument field v)) := fun row field v =>
    Method.invoke_of_length (by rw [List.length_map, hnamed.arity_eq]) row
  refine ⟨hnamed, hall, fun row field v => ⟨_, rowArguments_of_sources hall, hperforms row field v⟩,
    fun row field v name expected found h => ?_⟩
  rw [hperforms] at h
  exact ⟨_, Method.run_of_perform_arity h⟩

end FillPlan

theorem parse_of_parseFiller {spec : String} {call : Call} (h : parseFiller spec = .ok call) :
    Call.parse spec.toList = .ok call := by
  unfold parseFiller at h
  split at h
  · cases h
    assumption
  · cases h

theorem forTable_of_compileTableFiller {spec : String} {table row : Class} {p : FillPlan}
    (h : compileTableFiller spec table row = .ok p) : p.ForTable spec table := by
  obtain ⟨call, hcall, h⟩ := bind_eq_ok h
  obtain ⟨params, hparams, h⟩ := bind_eq_ok h
  obtain ⟨m, hm, h⟩ := bind_eq_ok h
  cases h
  obtain ⟨hrow, hall⟩ := of_tableParams hparams (Nat.zero_le 1) fun q hq => absurd hq List.not_mem_nil
  exact FillPlan.forTable_of_sources (namedOn_of_chooseMethod (parse_of_parseFiller hcall) hm) hrow hall

theorem forRow_of_compileRowFiller {spec : String} {row : Class} {p : FillPlan}
    (h : compileRowFiller spec row = .ok (.fixed p)) : p.ForRow spec row := by
  obtain ⟨call, hcall, h⟩ := bind_eq_ok h
  split at h
  · cases h
  · obtain ⟨params, hparams, h⟩ := bind_eq_ok h
    obtain ⟨m, hm, h⟩ := bind_eq_ok h
    cases h
    exact FillPlan.forRow_of_sources (namedOn_of_chooseMethod (parse_of_parseFiller hcall) hm) (of_rowParams hparams)

/-- **Compiled fillers hand over what their methods take**: a table filler the row, its count and what is read from it,
and a row filler the values and names of the fields. -/
theorem compiled_fillers (tableSpec rowSpec : String) (table row : Class) :
    (∀ p, compileTableFiller tableSpec table row = .ok p → p.ForTable tableSpec table) ∧
      ∀ p, compileRowFiller rowSpec row = .ok (.fixed p) → p.ForRow rowSpec row :=
  ⟨fun _ => forTable_of_compileTableFiller, fun _ => forRow_of_compileRowFiller⟩

/-- Entries have a number and a method for any field. -/
def entryClass : Class :=
  ((Class.ofEntity "Entry" 1).withGetter "id" .int false "id" (.int 0)).withRecorder "put" [.text, .any]
    [⟨.text, false⟩, ⟨.value, true⟩] "put"

/-- A ledger takes entries with their numbers and their places, and notes a count. -/
def ledgerClass : Class :=
  (((Class.ofEntity "Ledger" 0).withRecorder "put" [.int, .object "Entry", .int]
    [⟨.int, false⟩, ⟨.value, true⟩, ⟨.int, false⟩] "put").withRecorder "put" [.text, .object "Entry", .int]
    [⟨.text, false⟩, ⟨.value, true⟩, ⟨.int, false⟩] "putText").withRecorder "note" [.long] [⟨.long, false⟩] "note"

theorem compiled_fillers_ledger :
    (∃ p, compileTableFiller "put(row.id, row, rowNo)" ledgerClass entryClass = .ok p ∧
      p.ForTable "put(row.id, row, rowNo)" ledgerClass) ∧
    ∃ p, compileRowFiller "put(colName, colValue)" entryClass = .ok (.fixed p) ∧
      p.ForRow "put(colName, colValue)" entryClass :=
  ⟨⟨_, rfl, (compiled_fillers "put(row.id, row, rowNo)" "" ledgerClass entryClass).1 _ rfl⟩,
    ⟨_, rfl, (compiled_fillers "" "put(colName, colValue)" ledgerClass entryClass).2 _ rfl⟩⟩

/-- **A plan whose row count fails for ints alone**: no fault is one of a row count where another kind is declared. -/
def FillPlan.CountsFailAsInts (p : FillPlan) : Prop :=
  ∀ row added,
    p.FailsBefore row added (fun source kind e => TableFault row added source kind e ∧
      (source = .ordinal → kind = .int)) ∨
    p.PerformsOnce row added

/-- A count of `2 ^ 63` rows does not fit where a long is declared either. -/
theorem not_countsFailAsInts_of_long : ∃ p, compileTableFiller "note(rowNo)" ledgerClass entryClass = .ok p ∧
    (∀ t row, p.invokeTable t row (2 ^ 63) =
      .error (.value (.outOfRange "9223372036854775808" "row ordinal"))) ∧ ¬ p.CountsFailAsInts := by
  refine ⟨_, rfl, fun t row => rfl, fun h => ?_⟩
  rcases h (ObjectType.entity 1).fresh (2 ^ 63) with ⟨source, kind, e, hq, ⟨-, hint⟩, -⟩ | ⟨args, hplaces, -⟩
  · cases List.mem_singleton.1 hq
    cases hint rfl
  · cases hplaces with
    | cons harg _ =>
      cases harg with
      | count hcount =>
        cases hcount with
        | long _ hn =>
          have := Int64.toInt_lt ‹Int64›
          omega

end QueryRows
