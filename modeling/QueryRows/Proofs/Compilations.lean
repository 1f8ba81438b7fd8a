import Mathlib.Data.List.Induction
import QueryRows.Proofs.History
import QueryRows.Proofs.RunWindow
/-!
# Compilations — a mapper compiles once for each stretch of calls in which it has to

Calls fall into stretches between changes of the configuration.  In a stretch whose configuration compiles the first
use compiles it and the later ones keep it; in any other stretch every use reports the same error and does nothing.
So what is compiled, and how often something was, can be read off the calls (`compilesOnDemand`), whatever becomes of
the runs among them.
-/
namespace QueryRows

namespace MapperCall

/-- The choice that a call changes, if it changes one. -/
def setting? : MapperCall → Option Setting
  | .set s => some s
  | .prepare => none
  | .run _ _ _ => none

/-- A call that needs the configuration compiled. -/
def isUse (call : MapperCall) : Bool := call.setting?.isNone

theorem isSet_or_isUse : ∀ call : MapperCall, (∃ s, call = .set s) ∨ call.isUse = true
  | .set s => .inl ⟨s, rfl⟩
  | .prepare => .inr rfl
  | .run _ _ _ => .inr rfl

theorem setting?_eq_none {call : MapperCall} (h : call.isUse = true) : call.setting? = none :=
  Option.isNone_iff_eq_none.1 h

end MapperCall

namespace MappingConfig

def compiles (c : MappingConfig) : Bool := (Mapping.compile c).isOk

/-- The configuration after calls. -/
def afterAll (c : MappingConfig) (calls : List MapperCall) : MappingConfig :=
  (calls.filterMap MapperCall.setting?).foldl set c

/-- **The stretches of calls between changes**, each with the configuration it finds. -/
def stretches (c : MappingConfig) (calls : List MapperCall) : List (MappingConfig × List MapperCall) :=
  ((calls.filterMap MapperCall.setting?).scanl set c).zip (calls.splitOnP fun call => !call.isUse)

end MappingConfig

/-- A stretch with a use, whose configuration compiles. -/
def compilesIn (stretch : MappingConfig × List MapperCall) : Bool := stretch.1.compiles && !stretch.2.isEmpty

/-- Some call is a use that finds a configuration which compiles, when the calls start from a configuration. -/
def UsedWhereCompiles (c : MappingConfig) (calls : List MapperCall) : Prop :=
  ∃ done use later, calls = done ++ use :: later ∧ use.isUse = true ∧ (c.afterAll done).compiles = true

/-- A call comes to an error. -/
def Mapper.Reports (m : Mapper) (e : MappingError) : MapperCall → Prop
  | .set _ => False
  | .prepare => m.prepare.2 = .error e
  | .run records start size => (m.run records start size).2 = .error e

/-- **A mapper compiles on demand**: calls have compiled it when a use since the last change found a configuration
that compiles, and they have done so once for each stretch with such a use.  While the configuration does not compile,
uses change nothing and all report the same error; a run that fails in any other way leaves the mapper compiled; and a
change leaves no columns and no rules until the next use that compiles. -/
structure Mapper.CompilesOnDemand (calls : List MapperCall) : Prop where
  isCompiled_iff : (empty.afterAll calls).isCompiled = true ↔
    ∃ done since, calls = done ++ since ∧ (∀ call ∈ since, call.isUse = true) ∧
      UsedWhereCompiles (MappingConfig.empty.afterAll done) since
  compilations_eq : (empty.afterAll calls).compilations = (MappingConfig.empty.stretches calls).countP compilesIn
  reports_iff : ∀ use, use.isUse = true → ∀ e, (empty.afterAll calls).Reports (.compile e) use ↔
    Mapping.compile (MappingConfig.empty.afterAll calls) = .error e
  failed : ∀ e, Mapping.compile (MappingConfig.empty.afterAll calls) = .error e →
    ∀ uses, (∀ call ∈ uses, call.isUse = true) → (empty.afterAll (calls ++ uses)) = empty.afterAll calls ∧
      ∀ use, use.isUse = true → (empty.afterAll (calls ++ uses)).Reports (.compile e) use
  failedRun : ∀ records start size e, (empty.afterAll calls).Reports e (.run records start size) →
    (∀ cause, e ≠ .compile cause) → (empty.afterAll (calls ++ [.run records start size])).isCompiled = true
  changed : ∀ s later, ¬ UsedWhereCompiles (MappingConfig.empty.afterAll (calls ++ [.set s])) later →
    (empty.afterAll (calls ++ .set s :: later)).metadata? = none ∧
      (empty.afterAll (calls ++ .set s :: later)).resolutions = 0

/-! ### Runs never fail to compile -/

namespace Mapping

variable {m : Mapping}

theorem rowNo?_isSome_of_append {a : Assembly} {row : Obj} {rowNo : Nat} {e : MappingError}
    (h : m.append a row rowNo = .error e) : e.rowNo?.isSome = true := by
  unfold append at h
  split at h
  · cases h
  · cases h
    rfl

theorem rowNo?_isSome_of_takeRow {a : Assembly} {row : Obj} {rowNo : Nat} {e : MappingError}
    (h : m.takeRow a row rowNo = .error e) : e.rowNo?.isSome = true := by
  unfold takeRow at h
  split at h
  · exact rowNo?_isSome_of_append h
  · split at h
    · cases h
      rfl
    · cases h
    · exact rowNo?_isSome_of_append h

theorem rowNo?_isSome_of_finish {a : Assembly} {e : MappingError} (h : m.finish a = .error e) :
    e.rowNo?.isSome = true := by
  unfold finish at h
  split at h
  · cases h
  · exact rowNo?_isSome_of_append h

/-- **Once a mapping is compiled, whatever goes wrong goes wrong at a record.** -/
theorem rowNo?_isSome_of_mapRecords {e : MappingError} : ∀ {records : List (Nat × Record)} {mem : FieldMemory}
    {a : Assembly}, (m.mapRecords mem a records).2 = .error e → e.rowNo?.isSome = true
  | [], _, _, h => rowNo?_isSome_of_finish h
  | (rowNo, record) :: records, mem, a, h => by
    rw [mapRecords] at h
    rcases hf : m.fillRow mem rowNo record with ⟨mem', e' | row⟩
    · rw [hf] at h
      cases h
      rw [m.rowNo_of_fillFields (congrArg Prod.snd hf)]
      rfl
    · rw [hf] at h
      simp only at h
      cases ht : m.takeRow a row rowNo with
      | error e' =>
        rw [ht] at h
        cases h
        exact rowNo?_isSome_of_takeRow ht
      | ok a' =>
        rw [ht] at h
        exact rowNo?_isSome_of_mapRecords h

end Mapping

/-! ### Configurations and stretches -/

namespace MappingConfig

variable {c : MappingConfig}

theorem compiles_or_error (c : MappingConfig) : c.compiles = true ∨ ∃ e, Mapping.compile c = .error e := by
  unfold compiles
  cases Mapping.compile c with
  | error e => exact .inr ⟨e, rfl⟩
  | ok mapping => exact .inl rfl

theorem exists_of_compiles (h : c.compiles = true) : ∃ mapping, Mapping.compile c = .ok mapping := by
  unfold compiles at h
  cases hc : Mapping.compile c with
  | error e =>
    rw [hc] at h
    cases h
  | ok mapping => exact ⟨mapping, rfl⟩

theorem compiles_of_error {e : CompileError} (h : Mapping.compile c = .error e) : c.compiles = false := by
  rw [compiles, h]
  rfl

theorem afterAll_append (c : MappingConfig) (first second : List MapperCall) :
    c.afterAll (first ++ second) = (c.afterAll first).afterAll second := by
  rw [afterAll, List.filterMap_append, List.foldl_append]
  rfl

theorem afterAll_of_uses {uses : List MapperCall} (h : ∀ call ∈ uses, call.isUse = true) : c.afterAll uses = c := by
  have hnone : uses.filterMap MapperCall.setting? = [] :=
    List.filterMap_eq_nil_iff.2 fun call hcall => MapperCall.setting?_eq_none (h call hcall)
  rw [afterAll, hnone, List.foldl_nil]

theorem stretches_nil (c : MappingConfig) : c.stretches [] = [(c, [])] := by
  rw [stretches, List.splitOnP_nil]
  rfl

theorem stretches_set (c : MappingConfig) (s : Setting) (calls : List MapperCall) :
    c.stretches (.set s :: calls) = (c, []) :: (c.set s).stretches calls := by
  have hsettings : (MapperCall.set s :: calls).filterMap MapperCall.setting? =
      s :: calls.filterMap MapperCall.setting? := List.filterMap_cons_some rfl
  rw [stretches, hsettings, List.scanl_cons, List.splitOnP_cons_eq_if_modifyHead]
  rfl

theorem stretches_use {use : MapperCall} (huse : use.isUse = true) (calls : List MapperCall) :
    ∃ uses rest, c.stretches calls = (c, uses) :: rest ∧ c.stretches (use :: calls) = (c, use :: uses) :: rest := by
  obtain ⟨configs, hconfigs⟩ : ∃ configs, (calls.filterMap MapperCall.setting?).scanl set c = c :: configs := by
    cases calls.filterMap MapperCall.setting? with
    | nil => exact ⟨_, List.scanl_nil⟩
    | cons s ss => exact ⟨_, List.scanl_cons⟩
  obtain ⟨uses, rest, hsplit⟩ :=
    List.exists_cons_of_ne_nil (List.splitOnP_ne_nil (fun call : MapperCall => !call.isUse) calls)
  refine ⟨uses, configs.zip rest, ?_, ?_⟩
  · rw [stretches, hconfigs, hsplit, List.zip_cons_cons]
  · rw [stretches, List.filterMap_cons_none (MapperCall.setting?_eq_none huse), List.splitOnP_cons_eq_if_modifyHead, huse,
      hconfigs, hsplit]
    rfl

end MappingConfig

/-! ### What one use does -/

namespace Mapper

variable {m : Mapper}

theorem afterAll_append (m : Mapper) (first second : List MapperCall) :
    m.afterAll (first ++ second) = (m.afterAll first).afterAll second := List.foldl_append

theorem compile_eq_error (h : m.Current) {e : CompileError} (he : Mapping.compile m.config = .error e) :
    m.compile = .error e := by
  unfold Mapper.compile
  cases hc : m.compiled with
  | some c =>
    have := (h c hc).1
    rw [he] at this
    cases this
  | none => simp only [he]

/-- **A use of a configuration that does not compile** reports its error and does nothing else. -/
theorem use_of_error (h : m.Current) {e : CompileError} (he : Mapping.compile m.config = .error e)
    {use : MapperCall} (huse : use.isUse = true) :
    m.after use = m ∧ ∀ e', m.Reports e' use ↔ e' = .compile e := by
  have hc := compile_eq_error h he
  cases use with
  | set s => cases huse
  | prepare =>
    refine ⟨by simp only [after, prepare, hc], fun e' => ?_⟩
    simp only [Reports, prepare, hc, Except.error.injEq]
    exact eq_comm
  | run records start size =>
    refine ⟨by simp only [after, run, hc], fun e' => ?_⟩
    simp only [Reports, run, hc, Except.error.injEq]
    exact eq_comm

theorem compile_of_compiles (h : m.config.compiles = true) : ∃ c m', m.compile = .ok (c, m') ∧
    m'.config = m.config ∧ m'.compiled = some c ∧ m'.compilations = m.compilations + if m.isCompiled then 0 else 1 := by
  obtain ⟨mapping, hmapping⟩ := MappingConfig.exists_of_compiles h
  unfold Mapper.compile isCompiled
  cases hc : m.compiled with
  | some c => exact ⟨c, m, rfl, rfl, hc, rfl⟩
  | none =>
    rw [hmapping]
    exact ⟨_, _, rfl, rfl, rfl, rfl⟩

/-- **A use of a configuration that compiles** leaves it compiled, whatever becomes of a run; it counts unless it was
compiled before. -/
theorem use_of_compiles (h : m.config.compiles = true) {use : MapperCall} (huse : use.isUse = true) :
    (m.after use).config = m.config ∧ (m.after use).isCompiled = true ∧
      (m.after use).compilations = m.compilations + (if m.isCompiled then 0 else 1) ∧
      ∀ e, ¬ m.Reports (.compile e) use := by
  obtain ⟨c, m', hc, hconfig, hcompiled, hcount⟩ := compile_of_compiles h
  cases use with
  | set s => cases huse
  | prepare =>
    have hafter : m.after .prepare = m' := by simp only [after, prepare, hc]
    refine ⟨by rw [hafter, hconfig], by rw [hafter, isCompiled, hcompiled]; rfl, by rw [hafter, hcount], fun e he => ?_⟩
    simp only [Reports, prepare, hc] at he
    cases he
  | run records start size =>
    simp only [after, run, hc]
    refine ⟨hconfig, rfl, hcount, fun e he => ?_⟩
    simp only [Reports, run, hc, Mapping.run] at he
    cases ho : (c.mapping.mapRecords c.memory c.mapping.start (windowed start size records)).2 with
    | ok a =>
      rw [ho] at he
      cases he
    | error e' =>
      rw [ho] at he
      cases he
      cases Mapping.rowNo?_isSome_of_mapRecords ho

theorem Current.config_after (h : m.Current) (call : MapperCall) : (m.after call).config = m.config.afterAll [call] := by
  rcases call.isSet_or_isUse with ⟨s, rfl⟩ | huse
  · rfl
  · rw [MappingConfig.afterAll_of_uses fun other hother => by rw [List.mem_singleton.1 hother, huse]]
    rcases m.config.compiles_or_error with hc | ⟨e, he⟩
    · exact (use_of_compiles hc huse).1
    · rw [(use_of_error h he huse).1]

theorem Current.compiles_of_isCompiled (h : m.Current) (hm : m.isCompiled = true) : m.config.compiles = true := by
  obtain ⟨c, hc⟩ := Option.isSome_iff_exists.1 hm
  rw [MappingConfig.compiles, (h c hc).1]
  rfl

theorem Current.isCompiled_of_error (h : m.Current) {e : CompileError} (he : Mapping.compile m.config = .error e) :
    m.isCompiled = false := Bool.eq_false_iff.2 fun hm => by
  have hc := h.compiles_of_isCompiled hm
  rw [MappingConfig.compiles_of_error he] at hc
  cases hc

/-! ### What calls do -/

theorem Current.config_afterAll : ∀ (calls : List MapperCall) {m : Mapper}, m.Current →
    (m.afterAll calls).config = m.config.afterAll calls
  | [], _, _ => rfl
  | call :: calls, m, h => by
    rw [← List.singleton_append, MappingConfig.afterAll_append, ← h.config_after call]
    exact Current.config_afterAll calls (h.after call)

theorem Current.isCompiled_of_uses : ∀ (uses : List MapperCall) {m : Mapper}, m.Current →
    (∀ call ∈ uses, call.isUse = true) → m.isCompiled = true → (m.afterAll uses).isCompiled = true
  | [], _, _, _, hm => hm
  | use :: uses, _, h, huses, hm => by
    rw [List.forall_mem_cons] at huses
    have hafter := (use_of_compiles (h.compiles_of_isCompiled hm) huses.1).2.1
    exact Current.isCompiled_of_uses uses (h.after use) huses.2 hafter

/-- **Any use of a configuration that compiles leaves it compiled**, as long as there are only uses. -/
theorem Current.isCompiled_of_compiles (h : m.Current) (hc : m.config.compiles = true) {uses : List MapperCall}
    (hne : uses ≠ []) (huses : ∀ call ∈ uses, call.isUse = true) : (m.afterAll uses).isCompiled = true := by
  obtain ⟨use, rest, rfl⟩ := List.exists_cons_of_ne_nil hne
  rw [List.forall_mem_cons] at huses
  exact (h.after use).isCompiled_of_uses rest huses.2 (use_of_compiles hc huses.1).2.1

theorem Current.afterAll_of_error {e : CompileError} : ∀ (uses : List MapperCall) {m : Mapper}, m.Current →
    Mapping.compile m.config = .error e → (∀ call ∈ uses, call.isUse = true) → m.afterAll uses = m
  | [], _, _, _, _ => rfl
  | use :: uses, m, h, he, huses => by
    rw [List.forall_mem_cons] at huses
    have hafter := (use_of_error h he huses.1).1
    show (m.after use).afterAll uses = m
    rw [hafter]
    exact Current.afterAll_of_error uses h he huses.2

/-- Nothing is compiled as long as no use finds a configuration that compiles. -/
theorem Current.compiled_eq_none : ∀ (calls : List MapperCall) {m : Mapper}, m.Current → m.compiled = none →
    ¬ UsedWhereCompiles m.config calls → (m.afterAll calls).compiled = none
  | [], _, _, hm, _ => hm
  | call :: calls, m, h, hm, hnot => by
    have hrest : ¬ UsedWhereCompiles (m.after call).config calls := by
      rw [h.config_after call]
      rintro ⟨done, use, later, rfl, huse, hc⟩
      rw [← MappingConfig.afterAll_append, List.singleton_append] at hc
      exact hnot ⟨call :: done, use, later, rfl, huse, hc⟩
    refine Current.compiled_eq_none calls (h.after call) ?_ hrest
    rcases call.isSet_or_isUse with ⟨s, rfl⟩ | huse
    · rfl
    · rcases m.config.compiles_or_error with hc | ⟨e, he⟩
      · exact absurd ⟨[], call, calls, rfl, huse, hc⟩ hnot
      · rw [(use_of_error h he huse).1, hm]

theorem exists_since (hm : m.compiled = none) (calls : List MapperCall) :
    ∃ done since, calls = done ++ since ∧ (∀ call ∈ since, call.isUse = true) ∧ (m.afterAll done).compiled = none := by
  -- from the last call backwards: a change ends the search, a use goes to the calls since
  induction calls using List.reverseRecOn with
  | nil => exact ⟨[], [], rfl, fun call hcall => (nomatch hcall), hm⟩
  | append_singleton calls call ih =>
    rcases call.isSet_or_isUse with ⟨s, rfl⟩ | huse
    · refine ⟨calls ++ [.set s], [], (List.append_nil _).symm, fun call hcall => (nomatch hcall), ?_⟩
      rw [afterAll_append]
      rfl
    · obtain ⟨done, since, rfl, hsince, hdone⟩ := ih
      refine ⟨done, since ++ [call], List.append_assoc _ _ _, ?_, hdone⟩
      rw [List.forall_mem_append, List.forall_mem_singleton]
      exact ⟨hsince, huse⟩

/-! ### Compilations counted -/

/-- How many stretches of calls are still to be compiled: not the first one, when it is compiled already. -/
def toCompile (m : Mapper) (calls : List MapperCall) : Nat :=
  (if m.isCompiled then (m.config.stretches calls).tail else m.config.stretches calls).countP compilesIn

theorem countP_stretch_nil (c : MappingConfig) (rest : List (MappingConfig × List MapperCall)) :
    ((c, []) :: rest).countP compilesIn = rest.countP compilesIn :=
  List.countP_cons_of_neg (by rw [compilesIn, List.isEmpty_nil, Bool.not_true, Bool.and_false]; decide)

theorem toCompile_nil (m : Mapper) : m.toCompile [] = 0 := by
  rw [toCompile, MappingConfig.stretches_nil]
  cases m.isCompiled with
  | true => rfl
  | false => exact countP_stretch_nil m.config []

theorem toCompile_set (m : Mapper) (s : Setting) (calls : List MapperCall) :
    m.toCompile (.set s :: calls) = (m.set s).toCompile calls := by
  rw [toCompile, MappingConfig.stretches_set]
  cases m.isCompiled with
  | true => rfl
  | false => exact countP_stretch_nil m.config _

theorem toCompile_use_of_compiles (hc : m.config.compiles = true) {use : MapperCall} (huse : use.isUse = true)
    (calls : List MapperCall) :
    m.toCompile (use :: calls) = (if m.isCompiled then 0 else 1) + (m.after use).toCompile calls := by
  obtain ⟨uses, rest, hcalls, huses⟩ := MappingConfig.stretches_use (c := m.config) huse calls
  obtain ⟨hconfig, hcompiled, -, -⟩ := use_of_compiles hc huse
  rw [toCompile, toCompile, hconfig, hcompiled, hcalls, huses, Nat.add_comm]
  cases m.isCompiled with
  | true => rfl
  | false => exact List.countP_cons_of_pos (by rw [compilesIn, hc]; rfl)

theorem toCompile_use_of_error {e : CompileError} (h : m.Current) (he : Mapping.compile m.config = .error e)
    {use : MapperCall} (huse : use.isUse = true) (calls : List MapperCall) :
    m.toCompile (use :: calls) = m.toCompile calls := by
  obtain ⟨uses, rest, hcalls, huses⟩ := MappingConfig.stretches_use (c := m.config) huse calls
  have hnot (uses : List MapperCall) : ¬ compilesIn (m.config, uses) = true := by
    rw [compilesIn, MappingConfig.compiles_of_error he, Bool.false_and]
    decide
  rw [toCompile, toCompile, h.isCompiled_of_error he, hcalls, huses]
  exact (List.countP_cons_of_neg (hnot _)).trans (List.countP_cons_of_neg (hnot _)).symm

/-- **As many compilations come to those before as there are stretches to be compiled.** -/
theorem Current.compilations_afterAll : ∀ (calls : List MapperCall) {m : Mapper}, m.Current →
    (m.afterAll calls).compilations = m.compilations + m.toCompile calls
  | [], m, _ => by
    rw [toCompile_nil]
    rfl
  | call :: calls, m, h => by
    refine (Current.compilations_afterAll calls (h.after call)).trans ?_
    -- what a call compiles it takes off the stretches that are still to be compiled
    rcases call.isSet_or_isUse with ⟨s, rfl⟩ | huse
    · rw [toCompile_set]
      rfl
    · rcases m.config.compiles_or_error with hc | ⟨e, he⟩
      · rw [toCompile_use_of_compiles hc huse, (use_of_compiles hc huse).2.2.1, Nat.add_assoc]
      · rw [toCompile_use_of_error h he huse, (use_of_error h he huse).1]

/-! ### Mappers from the first call on -/

theorem current_afterAll_empty (calls : List MapperCall) : (empty.afterAll calls).Current :=
  Reachable.current ⟨calls, rfl⟩

theorem config_afterAll_empty (calls : List MapperCall) :
    (empty.afterAll calls).config = MappingConfig.empty.afterAll calls :=
  Current.config_afterAll calls (current_of_compiled_none rfl)

theorem isCompiled_afterAll_empty_iff (calls : List MapperCall) : (empty.afterAll calls).isCompiled = true ↔
    ∃ done since, calls = done ++ since ∧ (∀ call ∈ since, call.isUse = true) ∧
      UsedWhereCompiles (MappingConfig.empty.afterAll done) since := by
  constructor
  · intro hm
    obtain ⟨done, since, rfl, hsince, hnone⟩ := exists_since (m := empty) rfl calls
    refine ⟨done, since, rfl, hsince, Classical.byContradiction fun hnot => ?_⟩
    rw [← config_afterAll_empty] at hnot
    rw [afterAll_append, isCompiled, (current_afterAll_empty done).compiled_eq_none since hnone hnot] at hm
    cases hm
  · rintro ⟨done, -, rfl, hsince, before, use, later, rfl, huse, hc⟩
    rw [← MappingConfig.afterAll_append, ← config_afterAll_empty] at hc
    rw [← List.append_assoc, afterAll_append]
    rw [List.forall_mem_append] at hsince
    exact (current_afterAll_empty (done ++ before)).isCompiled_of_compiles hc (List.cons_ne_nil _ _) hsince.2

/-- **Every mapper compiles on demand**, whatever it has been through. -/
theorem compilesOnDemand (calls : List MapperCall) : CompilesOnDemand calls := by
  have hcurrent := current_afterAll_empty calls
  have hconfig := config_afterAll_empty calls
  refine ⟨isCompiled_afterAll_empty_iff calls, ?_, fun use huse e => ?_, fun e he uses huses => ?_, ?_, ?_⟩
  · rw [Current.compilations_afterAll calls (current_of_compiled_none rfl)]
    exact Nat.zero_add _
  · rw [← hconfig]
    refine ⟨fun hr => ?_, fun he => ((use_of_error hcurrent he huse).2 _).2 rfl⟩
    rcases (empty.afterAll calls).config.compiles_or_error with hc | ⟨e', he'⟩
    · exact absurd hr ((use_of_compiles hc huse).2.2.2 e)
    · cases ((use_of_error hcurrent he' huse).2 _).1 hr
      exact he'
  · rw [← hconfig] at he
    rw [afterAll_append, hcurrent.afterAll_of_error uses he huses]
    exact ⟨rfl, fun use huse => ((use_of_error hcurrent he huse).2 _).2 rfl⟩
  · intro records start size e hr hcause
    rw [afterAll_append]
    rcases (empty.afterAll calls).config.compiles_or_error with hc | ⟨e', he'⟩
    · have huse : (MapperCall.run records start size).isUse = true := rfl
      exact (use_of_compiles hc huse).2.1
    · exact absurd (((use_of_error hcurrent he' rfl).2 _).1 hr) (hcause e')
  · intro s later hnot
    rw [← config_afterAll_empty] at hnot
    have hset : (empty.afterAll (calls ++ [.set s])).compiled = none := by
      rw [afterAll_append]
      rfl
    have hnone := Current.compiled_eq_none later (current_afterAll_empty _) hset hnot
    rw [List.append_cons, afterAll_append, metadata?, resolutions, hnone]
    exact ⟨rfl, rfl⟩

/-- A failed run is no change, and a filler that is no call is none that counts: two compilations. -/
example : (orders.afterAll [.prepare, .run [[("o", .node [("id", .text "x")])]] 0 0, .set (.fill "add(("), .prepare,
    .set (.fill "add(row)"), .prepare, .prepare]).compilations = 2 := by rfl

end Mapper

end QueryRows
