import QueryRows.Proofs.FillerCalls
/-!
# Overloads — which of several methods a filler means

The methods with the name and the number of arguments of a filler are its candidates.  Among several, one is taken if
it alone accepts the kinds of the arguments, where row counts are read as longs first and as ints when that leaves no
single one (`compileTableFiller_overloads`).  Where several candidates accept the longs, the reading as ints may still
leave one that takes anything, which is then chosen over one that takes longs (`not_chosenByKinds_of_any`).  Only how
many candidates accept is ever asked, so the order in which methods are declared does not matter, nor do methods that
are no candidates (`compileFillers_of_perm`).
-/
namespace QueryRows

/-- The element of a list that has no other. -/
def sole? {α : Type} : List α → Option α
  | [x] => some x
  | _ => none

theorem sole?_eq_some_iff {α : Type} {l : List α} {x : α} : sole? l = some x ↔ l = [x] := by
  constructor
  · intro h
    unfold sole? at h
    split at h
    · cases h
      rfl
    · cases h
  · rintro rfl
    rfl

theorem sole?_eq_none_of_ne {α : Type} {l : List α} (h : ∀ x, l = [x] → False) : sole? l = none := by
  unfold sole?
  split
  · exact (h _ rfl).elim
  · rfl

theorem sole?_eq_none_iff {α : Type} {l : List α} : sole? l = none ↔ l.length ≠ 1 := by
  constructor
  · intro h hlength
    obtain ⟨x, rfl⟩ := List.length_eq_one_iff.1 hlength
    cases h
  · exact fun h => sole?_eq_none_of_ne fun x hx => h (by rw [hx]; rfl)

theorem sole?_perm {α : Type} {l l' : List α} (h : l.Perm l') : sole? l = sole? l' := by
  apply Option.ext
  intro x
  rw [sole?_eq_some_iff, sole?_eq_some_iff]
  constructor
  · rintro rfl
    exact (List.singleton_perm.1 h).symm
  · rintro rfl
    exact List.perm_singleton.1 h

/-! ### The method that is chosen -/

/-- The methods that a call may mean on a class. -/
def Call.candidates (call : Call) (c : Class) : List Method := c.methodsNamed call.name call.args.length

/-- How many candidates accept arguments of some kinds. -/
def acceptCount (candidates : List Method) (kinds : List Kind) : Nat := candidates.countP fun m => acceptsKinds m kinds

/-- **A method is the only candidate that accepts arguments of some kinds.** -/
structure AcceptsAlone (candidates : List Method) (kinds : List Kind) (m : Method) : Prop where
  mem : m ∈ candidates
  accepts : acceptsKinds m kinds = true
  alone : acceptCount candidates kinds = 1

theorem length_matching (candidates : List Method) (kinds : List Kind) :
    (matching candidates kinds).length = acceptCount candidates kinds := List.countP_eq_length_filter.symm

theorem sole?_matching_iff {candidates : List Method} {kinds : List Kind} {m : Method} :
    sole? (matching candidates kinds) = some m ↔ AcceptsAlone candidates kinds m := by
  rw [sole?_eq_some_iff]
  constructor
  · intro h
    have hmem : m ∈ matching candidates kinds := by simp [h]
    obtain ⟨hcandidate, haccepts⟩ := List.mem_filter.1 hmem
    exact ⟨hcandidate, haccepts, by rw [← length_matching, h]; rfl⟩
  · intro h
    obtain ⟨x, hx⟩ := List.length_eq_one_iff.1 ((length_matching candidates kinds).trans h.alone)
    have hmem : m ∈ matching candidates kinds := List.mem_filter.2 ⟨h.mem, h.accepts⟩
    rw [hx, List.mem_singleton] at hmem
    rw [hx, hmem]

/-- **What choosing a method comes to**: a sole candidate, else a sole one that accepts the kinds, else a sole one
that accepts the other kinds, if there are any. -/
theorem chooseMethod_eq (c : Class) (name : String) (kinds : List Kind) (retry : Option (List Kind)) :
    chooseMethod c name kinds retry =
      if (c.methodsNamed name kinds.length).length = 0 then .error (.unknownOperation c.name name kinds.length)
      else
        (((sole? (c.methodsNamed name kinds.length)).or (sole? (matching (c.methodsNamed name kinds.length) kinds))).or
          (retry.bind fun ks => sole? (matching (c.methodsNamed name kinds.length) ks))).elim
            (.error (.ambiguousOverload c.name name kinds.length (c.methodsNamed name kinds.length).length)) .ok := by
  unfold chooseMethod
  cases hc : c.methodsNamed name kinds.length with
  | nil => rfl
  | cons first rest =>
    cases rest with
    | nil => rfl
    | cons second rest =>
      rw [sole?_eq_none_iff.2 (by simp), Option.none_or, if_neg (by simp)]
      simp only
      split
      · rename_i chosen hm
        rw [hm]
        rfl
      · rename_i hm
        rw [sole?_eq_none_of_ne hm]
        rfl
      · rename_i retry hm
        rw [sole?_eq_none_of_ne hm, Option.none_or, Option.bind_some]
        split
        · rename_i chosen hr
          rw [hr]
          rfl
        · rename_i hr
          rw [sole?_eq_none_of_ne hr]
          rfl

/-! ### Table fillers -/

/-- The kinds of a table filler's arguments, with every row count read as `count`. -/
def readAs (row : Class) (count : Kind) (params : List ParamSource) : List Kind := params.map (tableKind row count)

/-- **A method is chosen by its kinds**: it alone accepts the arguments with row counts as longs, or no candidate
accepts them so and it alone accepts them with row counts as ints. -/
def ChosenByKinds (candidates : List Method) (row : Class) (params : List ParamSource) (m : Method) : Prop :=
  AcceptsAlone candidates (readAs row .long params) m ∨
    (∀ c ∈ candidates, acceptsKinds c (readAs row .long params) = false) ∧
      AcceptsAlone candidates (readAs row .int params) m

theorem length_tableParams {spec : String} {row : Class} : ∀ {args : List String} {seen params : List ParamSource},
    tableParams spec row seen args = .ok params → params.length = seen.length + args.length
  | [], seen, params, h => by
    cases h
    rfl
  | arg :: args, seen, params, h => by
    rw [tableParams] at h
    split at h
    · cases h
    · split at h
      · cases h
      · have := length_tableParams h
        simp only [List.length_append, List.length_cons, List.length_nil] at this ⊢
        omega
    · have := length_tableParams h
      simp only [List.length_append, List.length_cons, List.length_nil] at this ⊢
      omega

theorem readAs_of_no_ordinal {row : Class} {params : List ParamSource} (h : hasOrdinal params = false) (a b : Kind) :
    readAs row a params = readAs row b params := by
  refine List.map_congr_left fun q hq => ?_
  have := List.any_eq_false.1 h q hq
  cases q <;> first | rfl | exact absurd rfl this

section

variable {spec : String} {table row : Class} {call : Call} {params : List ParamSource}

theorem compileTableFiller_of_params (hcall : Call.parse spec.toList = .ok call)
    (hparams : tableParams spec row [] call.args = .ok params) :
    compileTableFiller spec table row =
      (chooseMethod table call.name (readAs row .long params)
        (if hasOrdinal params then some (readAs row .int params) else none)).map fun m => ⟨m, params, none⟩ := by
  unfold compileTableFiller parseFiller
  rw [hcall]
  simp only [bind, Except.bind]
  rw [hparams]
  rfl

/-- **Among several candidates the kinds decide**, with row counts as longs and then as ints. -/
theorem compileTableFiller_of_several (hcall : Call.parse spec.toList = .ok call)
    (hparams : tableParams spec row [] call.args = .ok params) (hseveral : 2 ≤ (call.candidates table).length) :
    compileTableFiller spec table row =
      ((sole? (matching (call.candidates table) (readAs row .long params))).or
        (sole? (matching (call.candidates table) (readAs row .int params)))).elim
          (.error (.ambiguousOverload table.name call.name call.args.length (call.candidates table).length))
          fun m => .ok ⟨m, params, none⟩ := by
  have hlength : (readAs row .long params).length = call.args.length := by
    rw [readAs, List.length_map, length_tableParams hparams, List.length_nil, Nat.zero_add]
  rw [compileTableFiller_of_params hcall hparams, chooseMethod_eq, hlength]
  unfold Call.candidates at hseveral ⊢
  rw [if_neg (by omega), sole?_eq_none_iff.2 (by omega), Option.none_or]
  cases hord : hasOrdinal params with
  | true =>
    rw [if_pos rfl, Option.bind_some]
    cases Option.or _ _ <;> rfl
  | false =>
    rw [if_neg Bool.false_ne_true, readAs_of_no_ordinal hord .int .long, Option.or_self, Option.bind_none,
      Option.or_none]
    cases sole? _ <;> rfl

/-- A table filler that is compiled has been read. -/
theorem exists_of_compileTableFiller {p : FillPlan} (h : compileTableFiller spec table row = .ok p) :
    ∃ call, Call.parse spec.toList = .ok call ∧ tableParams spec row [] call.args = .ok p.params := by
  obtain ⟨call, hcall, h⟩ := bind_eq_ok h
  obtain ⟨params, hparams, h⟩ := bind_eq_ok h
  obtain ⟨m, hm, h⟩ := bind_eq_ok h
  cases h
  exact ⟨call, parse_of_parseFiller hcall, hparams⟩

/-- **The candidate that is chosen among several** accepts the arguments alone, with row counts as longs, or as ints
where the longs leave none or several. -/
theorem acceptsAlone_of_compileTableFiller {p : FillPlan} (h : compileTableFiller spec table row = .ok p)
    (hcall : Call.parse spec.toList = .ok call) (hparams : tableParams spec row [] call.args = .ok p.params)
    (hseveral : 2 ≤ (call.candidates table).length) :
    AcceptsAlone (call.candidates table) (readAs row .long p.params) p.method ∨
      acceptCount (call.candidates table) (readAs row .long p.params) ≠ 1 ∧
        AcceptsAlone (call.candidates table) (readAs row .int p.params) p.method := by
  rw [compileTableFiller_of_several hcall hparams hseveral] at h
  cases hlong : sole? (matching (call.candidates table) (readAs row .long p.params)) with
  | some m =>
    rw [hlong] at h
    have hm : m = p.method := congrArg FillPlan.method (Except.ok.inj h)
    exact .inl (hm ▸ sole?_matching_iff.1 hlong)
  | none =>
    rw [hlong, Option.none_or] at h
    cases hint : sole? (matching (call.candidates table) (readAs row .int p.params)) with
    | none =>
      rw [hint] at h
      cases h
    | some m =>
      rw [hint] at h
      have hm : m = p.method := congrArg FillPlan.method (Except.ok.inj h)
      refine .inr ⟨?_, hm ▸ sole?_matching_iff.1 hint⟩
      rw [← length_matching]
      exact sole?_eq_none_iff.1 hlong

end

/-- **Overloads of a table operation.**  Where several methods have the name and the number of arguments of a filler,
the one that is chosen accepts the arguments alone, with row counts as longs, or as ints if the longs leave none or
several.  Unless several candidates accept the longs and a single one the ints, a filler that is compiled has chosen by
kinds, and one whose longs several candidates accept is ambiguous. -/
theorem compileTableFiller_overloads (spec : String) (table row : Class) :
    (∀ p, compileTableFiller spec table row = .ok p → ∃ call, Call.parse spec.toList = .ok call ∧
      tableParams spec row [] call.args = .ok p.params ∧
      (2 ≤ (call.candidates table).length →
        (AcceptsAlone (call.candidates table) (readAs row .long p.params) p.method ∨
          acceptCount (call.candidates table) (readAs row .long p.params) ≠ 1 ∧
            AcceptsAlone (call.candidates table) (readAs row .int p.params) p.method) ∧
        (¬ (2 ≤ acceptCount (call.candidates table) (readAs row .long p.params) ∧
            acceptCount (call.candidates table) (readAs row .int p.params) = 1) →
          ChosenByKinds (call.candidates table) row p.params p.method))) ∧
    ∀ call params, Call.parse spec.toList = .ok call → tableParams spec row [] call.args = .ok params →
      2 ≤ acceptCount (call.candidates table) (readAs row .long params) →
      acceptCount (call.candidates table) (readAs row .int params) ≠ 1 →
        compileTableFiller spec table row =
          .error (.ambiguousOverload table.name call.name call.args.length (call.candidates table).length) := by
  refine ⟨fun p h => ?_, fun call params hcall hparams hlong hint => ?_⟩
  · obtain ⟨call, hcall, hparams⟩ := exists_of_compileTableFiller h
    refine ⟨call, hcall, hparams, fun hseveral => ?_⟩
    have hchosen := acceptsAlone_of_compileTableFiller h hcall hparams hseveral
    refine ⟨hchosen, fun hdecided => hchosen.imp id fun ⟨hne, hint⟩ => ⟨?_, hint⟩⟩
    have hzero : acceptCount (call.candidates table) (readAs row .long p.params) = 0 := by
      have := hint.alone
      omega
    simpa using List.countP_eq_zero.1 hzero
  · have hseveral : 2 ≤ (call.candidates table).length := Nat.le_trans hlong List.countP_le_length
    rw [compileTableFiller_of_several hcall hparams hseveral, sole?_eq_none_iff.2 (by rw [length_matching]; omega),
      sole?_eq_none_iff.2 (by rw [length_matching]; exact hint)]
    rfl

/-- Notes are taken with a long, and with anything. -/
def notesClass : Class :=
  ((Class.ofEntity "Notes" 0).withRecorder "note" [.long] [⟨.long, false⟩] "note").withRecorder "note" [.any]
    [⟨.value, true⟩] "noteAny"

/-- **A row count goes to the method that takes anything, although another one takes longs**: both accept it as a long,
and as an int only the former does. -/
theorem not_chosenByKinds_of_any : ∃ call p, Call.parse "note(rowNo)".toList = .ok call ∧
    compileTableFiller "note(rowNo)" notesClass entryClass = .ok p ∧ p.method.params = [.any] ∧
    acceptCount (call.candidates notesClass) (readAs entryClass .long p.params) = 2 ∧
    ¬ ChosenByKinds (call.candidates notesClass) entryClass p.params p.method := by
  refine ⟨⟨"note", ["rowNo"]⟩, _, rfl, rfl, rfl, rfl, fun h => ?_⟩
  rcases h with h | ⟨h, -⟩
  · have : 2 = 1 := h.alone
    omega
  · cases h _ List.mem_cons_self

/-! ### The order of declarations -/

theorem matching_perm {candidates candidates' : List Method} (h : candidates.Perm candidates') (kinds : List Kind) :
    (matching candidates kinds).Perm (matching candidates' kinds) := h.filter _

theorem chooseMethod_congr {c c' : Class} {name : String} {kinds : List Kind}
    (h : (c'.methodsNamed name kinds.length).Perm (c.methodsNamed name kinds.length)) (hname : c'.name = c.name)
    (retry : Option (List Kind)) :
    chooseMethod c' name kinds retry = chooseMethod c name kinds retry := by
  have hretry : (fun ks => sole? (matching (c'.methodsNamed name kinds.length) ks)) =
      fun ks => sole? (matching (c.methodsNamed name kinds.length) ks) :=
    funext fun ks => sole?_perm (matching_perm h ks)
  rw [chooseMethod_eq, chooseMethod_eq, hname, h.length_eq, sole?_perm h, sole?_perm (matching_perm h kinds), hretry]

/-- Methods in another order, with more of them that are of another name or number of parameters. -/
theorem methodsNamed_perm {c : Class} {methods more : List Method} (hperm : methods.Perm (c.methods ++ more))
    {name : String} {arity : Nat} (hmore : ∀ m ∈ more, memberKey m.name ≠ memberKey name ∨ m.arity ≠ arity) :
    (Class.methodsNamed { c with methods } name arity).Perm (c.methodsNamed name arity) := by
  have hnone : (more.filter fun m => m.arity == arity && sameMember m.name name) = [] := by
    refine List.filter_eq_nil_iff.2 fun m hm hsame => ?_
    rw [Bool.and_eq_true, beq_iff_eq] at hsame
    rcases hmore m hm with hkey | harity
    · exact hkey (eq_of_beq hsame.2)
    · exact harity hsame.1
  have := hperm.filter fun m => m.arity == arity && sameMember m.name name
  rw [List.filter_append, hnone, List.append_nil] at this
  exact this

theorem length_rowParams {spec : String} : ∀ {args : List String} {params : List ParamSource},
    args.mapM (rowParam spec) = .ok params → params.length = args.length
  | [], _, h => by
    cases h
    rfl
  | arg :: args, params, h => by
    rw [List.mapM_cons] at h
    obtain ⟨q, hq, h⟩ := bind_eq_ok h
    obtain ⟨rest, hrest, h⟩ := bind_eq_ok h
    cases h
    rw [List.length_cons, List.length_cons, length_rowParams hrest]

/-- **The order in which methods are declared does not matter, nor do methods of other names or numbers of
parameters**: table fillers and row fillers compile to the same plans, and fail alike. -/
theorem compileFillers_of_perm {spec : String} {c : Class} {methods more : List Method}
    (hperm : methods.Perm (c.methods ++ more))
    (hmore : ∀ call, Call.parse spec.toList = .ok call → ∀ m ∈ more,
      memberKey m.name ≠ memberKey call.name ∨ m.arity ≠ call.args.length) :
    (∀ row, compileTableFiller spec { c with methods } row = compileTableFiller spec c row) ∧
      compileRowFiller spec { c with methods } = compileRowFiller spec c := by
  have hchoose : ∀ {call : Call} {kinds : List Kind} (retry : Option (List Kind)), parseFiller spec = .ok call →
      kinds.length = call.args.length →
        chooseMethod { c with methods } call.name kinds retry = chooseMethod c call.name kinds retry := by
    intro call kinds retry hcall hlength
    have hcandidates : (Class.methodsNamed { c with methods } call.name kinds.length).Perm
        (c.methodsNamed call.name kinds.length) := by
      rw [hlength]
      exact methodsNamed_perm hperm (hmore call (parse_of_parseFiller hcall))
    exact chooseMethod_congr hcandidates rfl retry
  refine ⟨fun row => bind_congr_ok fun call hcall => bind_congr_ok fun params hparams => ?_,
    bind_congr_ok fun call hcall => ?_⟩
  · have hlength := length_tableParams hparams
    rw [List.length_nil, Nat.zero_add] at hlength
    simp only
    rw [hchoose _ hcall (by rw [List.length_map, hlength])]
  · split
    · rfl
    · refine bind_congr_ok fun params hparams => ?_
      rw [hchoose _ hcall (by rw [List.length_map, length_rowParams hparams])]

/-- The ledger with its methods from the last one to the first, behind one that puts an entry alone. -/
def reversedLedgerClass : Class :=
  ((((Class.ofEntity "Ledger" 0).withRecorder "Put" [.object "Entry"] [⟨.value, true⟩] "putAlone").withRecorder "note"
    [.long] [⟨.long, false⟩] "note").withRecorder "put" [.text, .object "Entry", .int]
    [⟨.text, false⟩, ⟨.value, true⟩, ⟨.int, false⟩] "putText").withRecorder "put" [.int, .object "Entry", .int]
    [⟨.int, false⟩, ⟨.value, true⟩, ⟨.int, false⟩] "put"

theorem compileFillers_of_perm_ledger :
    reversedLedgerClass.methods.Perm (ledgerClass.methods ++ reversedLedgerClass.methods.take 1) ∧
      (∀ call, Call.parse "put(row.id, row, rowNo)".toList = .ok call → ∀ m ∈ reversedLedgerClass.methods.take 1,
        memberKey m.name ≠ memberKey call.name ∨ m.arity ≠ call.args.length) ∧
      (∃ p, compileTableFiller "put(row.id, row, rowNo)" ledgerClass entryClass = .ok p) ∧
      compileTableFiller "put(row.id, row, rowNo)" reversedLedgerClass entryClass =
        compileTableFiller "put(row.id, row, rowNo)" ledgerClass entryClass := by
  have hperm : reversedLedgerClass.methods.Perm (ledgerClass.methods ++ reversedLedgerClass.methods.take 1) :=
    List.reverse_perm (ledgerClass.methods ++ reversedLedgerClass.methods.take 1)
  have hclass : ({ ledgerClass with methods := reversedLedgerClass.methods } : Class) = reversedLedgerClass := rfl
  have hmore : ∀ call, Call.parse "put(row.id, row, rowNo)".toList = .ok call →
      ∀ m ∈ reversedLedgerClass.methods.take 1,
        memberKey m.name ≠ memberKey call.name ∨ m.arity ≠ call.args.length := by
    intro call hcall m hm
    have harity : m.arity = 1 := by
      cases List.mem_singleton.1 hm
      rfl
    have hargs : call.args.length = 3 := by
      cases hcall
      rfl
    exact .inr (by omega)
  have := (compileFillers_of_perm (c := ledgerClass) hperm hmore).1 entryClass
  rw [hclass] at this
  exact ⟨hperm, hmore, ⟨_, rfl⟩, this⟩

end QueryRows
