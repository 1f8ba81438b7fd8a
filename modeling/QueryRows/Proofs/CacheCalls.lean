import Mathlib.Data.Finset.Card
import QueryRows.Proofs.CachedRules
/-!
# CacheCalls — a cache of rules under any calls

Whatever is resolved and converted on one cache, as long as every field comes with one kind: conversions come out as
without a cache, a field keeps its rule, and there are as many rules, and have been as many resolutions, as fields were
used (`asUncached_of_kinds`).  A null uses no field.
-/
namespace QueryRows

/-- A call on a cache of rules. -/
inductive CacheCall where
  | resolve (field : String) (source : Family) (target : Kind)
  | coerce (field : String) (v : Value) (target : Kind)

namespace CacheCall

def field : CacheCall → String
  | .resolve field _ _ => field
  | .coerce field _ _ => field

def target : CacheCall → Kind
  | .resolve _ _ target => target
  | .coerce _ _ target => target

/-- Converting null leaves the cache alone. -/
def usesField : CacheCall → Bool
  | .resolve _ _ _ => true
  | .coerce _ v _ => !v.isNull

end CacheCall

/-- The fields that calls use, one for each such call. -/
def usedFields (calls : List CacheCall) : List String := (calls.filter CacheCall.usesField).map CacheCall.field

namespace CoercionCache

def after (c : CoercionCache) : CacheCall → CoercionCache
  | .resolve field source target => (c.resolve field source target).2
  | .coerce field v target => (c.coerce field v target).2

/-- The cache after calls, one after the other. -/
def afterAll (c : CoercionCache) (calls : List CacheCall) : CoercionCache := calls.foldl after c

/-- **Calls come out as without a cache**, and at every point between them the rules are those of before, as many of
them, and as many resolutions, as there are distinct fields used so far. -/
structure AsUncached (calls : List CacheCall) : Prop where
  conversions : ∀ done field v target later, calls = done ++ .coerce field v target :: later →
    ((empty.afterAll done).coerce field v target).1 = (CoercionRule.resolve (Family.of v) target).apply v
  rules_stay : ∀ done next later, calls = done ++ next ++ later → ∀ field rule,
    (empty.afterAll done).rules.lookup field = some rule →
      (empty.afterAll (done ++ next)).rules.lookup field = some rule
  resolutions_eq : ∀ done later, calls = done ++ later →
    (empty.afterAll done).resolutions = (usedFields done).toFinset.card
  size_eq : ∀ done later, calls = done ++ later → (empty.afterAll done).size = (usedFields done).toFinset.card

variable {c : CoercionCache}

theorem afterAll_append (c : CoercionCache) (first second : List CacheCall) :
    c.afterAll (first ++ second) = (c.afterAll first).afterAll second := List.foldl_append

/-- Beyond the rule that it resolves, a conversion does nothing to the cache. -/
theorem coerce_snd {v : Value} (hv : v.isNull = false) (field : String) (target : Kind) :
    (c.coerce field v target).2 = (c.resolve field (Family.of v) target).2 := by
  rw [coerce, hv, if_neg Bool.false_ne_true]
  simp only
  split <;> rfl

theorem coerce_snd_of_isNull {v : Value} (hv : v.isNull = true) (field : String) (target : Kind) :
    (c.coerce field v target).2 = c := by
  rw [coerce, if_pos hv]

/-! ### Rules stay -/

theorem lookup_resolve {field other : String} {rule : CoercionRule} (h : c.rules.lookup field = some rule)
    (source : Family) (target : Kind) : (c.resolve other source target).2.rules.lookup field = some rule := by
  unfold resolve
  split
  · exact h
  · rw [List.lookup_append, h, Option.some_or]

theorem lookup_after {field : String} {rule : CoercionRule} (h : c.rules.lookup field = some rule) (call : CacheCall) :
    (c.after call).rules.lookup field = some rule := by
  cases call with
  | resolve other source target => exact lookup_resolve h source target
  | coerce other v target =>
    rw [after]
    cases hv : v.isNull with
    | true =>
      rw [coerce_snd_of_isNull hv]
      exact h
    | false =>
      rw [coerce_snd hv]
      exact lookup_resolve h _ target

/-- **A field's rule never changes.** -/
theorem lookup_afterAll : ∀ (calls : List CacheCall) {c : CoercionCache} {field : String} {rule : CoercionRule},
    c.rules.lookup field = some rule → (c.afterAll calls).rules.lookup field = some rule
  | [], _, _, _, h => h
  | call :: calls, _, _, _, h => lookup_afterAll calls (lookup_after h call)

/-! ### Rules are for one kind -/

theorem Follows.after {kinds : String → Option Kind} (h : c.Follows kinds) {call : CacheCall}
    (hk : kinds call.field = some call.target) : (c.after call).Follows kinds := by
  cases call with
  | resolve field source target => exact h.resolve_snd hk source
  | coerce field v target => exact h.coerce_snd hk v

theorem Follows.afterAll {kinds : String → Option Kind} : ∀ (calls : List CacheCall) {c : CoercionCache},
    c.Follows kinds → (∀ call ∈ calls, kinds call.field = some call.target) → (c.afterAll calls).Follows kinds
  | [], _, h, _ => h
  | call :: calls, _, h, hk =>
    Follows.afterAll calls (h.after (hk call (.head _))) fun other hmem => hk other (.tail _ hmem)

/-! ### Rules are counted -/

/-- **One rule, and one resolution, for each of the fields used so far.** -/
structure Counts (c : CoercionCache) (fields : List String) : Prop where
  nodup : (c.rules.map (·.1)).Nodup
  mem_iff : ∀ field, field ∈ c.rules.map (·.1) ↔ field ∈ fields
  resolutions_eq : c.resolutions = c.rules.length

namespace Counts

variable {fields : List String}

theorem start : empty.Counts [] := ⟨List.nodup_nil, fun _ => Iff.rfl, rfl⟩

theorem resolve (h : c.Counts fields) (field : String) (source : Family) (target : Kind) :
    (c.resolve field source target).2.Counts (fields ++ [field]) := by
  unfold CoercionCache.resolve
  split
  · rename_i rule hr
    have hmem : field ∈ c.rules.map (·.1) := by
      obtain ⟨front, back, hs, -⟩ := List.lookup_eq_some_iff.1 hr
      rw [hs]
      exact List.mem_map.2 ⟨_, List.mem_append_right _ (.head _), rfl⟩
    refine ⟨h.nodup, fun other => ?_, h.resolutions_eq⟩
    rw [h.mem_iff, List.mem_append, List.mem_singleton]
    exact ⟨.inl, fun ho => ho.elim id fun he => he ▸ (h.mem_iff field).1 hmem⟩
  · rename_i hr
    have hnew : field ∉ c.rules.map (·.1) := by
      intro hmem
      obtain ⟨p, hp, rfl⟩ := List.mem_map.1 hmem
      have := List.lookup_eq_none_iff.1 hr p hp
      exact absurd rfl (bne_iff_ne.1 this)
    refine ⟨?_, fun other => ?_, ?_⟩
    · rw [List.map_append, List.map_singleton, List.nodup_append]
      refine ⟨h.nodup, List.nodup_singleton _, fun a ha b hb hab => hnew ?_⟩
      have hfield : b = field := List.mem_singleton.1 hb
      rw [← hfield, ← hab]
      exact ha
    · rw [List.map_append, List.mem_append, List.mem_append, h.mem_iff, List.map_singleton]
    · rw [List.length_append, List.length_singleton, h.resolutions_eq]

theorem after (h : c.Counts fields) (call : CacheCall) : (c.after call).Counts (fields ++ usedFields [call]) := by
  cases call with
  | resolve field source target => exact h.resolve field source target
  | coerce field v target =>
    rw [CoercionCache.after]
    cases hv : v.isNull with
    | true =>
      have hu : usedFields [.coerce field v target] = [] := by simp [usedFields, CacheCall.usesField, hv]
      rw [coerce_snd_of_isNull hv, hu, List.append_nil]
      exact h
    | false =>
      have hu : usedFields [.coerce field v target] = [field] := by
        simp [usedFields, CacheCall.usesField, CacheCall.field, hv]
      rw [coerce_snd hv, hu]
      exact h.resolve field _ target

theorem afterAll : ∀ (calls : List CacheCall) {c : CoercionCache} {fields : List String}, c.Counts fields →
    (c.afterAll calls).Counts (fields ++ usedFields calls)
  | [], _, _, h => by
    rw [usedFields, List.filter_nil, List.map_nil, List.append_nil]
    exact h
  | call :: calls, c, fields, h => by
    have hu : usedFields (call :: calls) = usedFields [call] ++ usedFields calls := by
      rw [usedFields, ← List.singleton_append, List.filter_append, List.map_append]
      rfl
    rw [hu, ← List.append_assoc]
    exact afterAll calls (h.after call)

theorem size_eq_card (h : c.Counts fields) : c.size = fields.toFinset.card := by
  have hset : (c.rules.map (·.1)).toFinset = fields.toFinset := by
    ext field
    rw [List.mem_toFinset, List.mem_toFinset, h.mem_iff]
  rw [← hset, List.toFinset_card_of_nodup h.nodup, List.length_map]
  rfl

end Counts

/-- **A cache in which every field comes with one kind does what no cache does**, whatever the calls are. -/
theorem asUncached_of_kinds {kinds : String → Kind} {calls : List CacheCall}
    (hk : ∀ call ∈ calls, call.target = kinds call.field) : AsUncached calls := by
  have hcounts (done : List CacheCall) : (empty.afterAll done).Counts (usedFields done) :=
    Counts.afterAll done Counts.start
  refine ⟨?_, ?_, fun done _ _ => ?_, fun done _ _ => (hcounts done).size_eq_card⟩
  · intro done field v target later hs
    have hdone : ∀ call ∈ done, some (kinds call.field) = some call.target := fun call hmem =>
      congrArg some (hk call (hs ▸ List.mem_append_left _ hmem)).symm
    have hfollows := (follows_empty fun field => some (kinds field)).afterAll done hdone
    have hcall := hk (.coerce field v target) (hs ▸ List.mem_append_right _ (.head _))
    exact hfollows.coerce_fst (congrArg some hcall.symm) v
  · intro done next later _ field rule hr
    rw [afterAll_append]
    exact lookup_afterAll next hr
  · rw [(hcounts done).resolutions_eq, ← (hcounts done).size_eq_card]
    rfl

/-- A null first, then a whole number that resolves the rule, and a text that the rule is not for. -/
theorem asUncached_of_kinds_drift : ∃ (kinds : String → Kind) (calls : List CacheCall),
    calls = [.coerce "age" .null .int, .coerce "age" (.long 4) .int, .resolve "name" .text .text,
      .coerce "age" (.text "7") .int] ∧
      (∀ call ∈ calls, call.target = kinds call.field) ∧ AsUncached calls ∧
      (empty.afterAll calls).resolutions = 2 ∧
      ((empty.afterAll (calls.take 3)).coerce "age" (.text "7") .int).1 =
        (CoercionRule.resolve .text .int).apply (.text "7") := by
  let kinds : String → Kind := fun field => if field = "age" then .int else .text
  have hk : ∀ call ∈ [CacheCall.coerce "age" .null .int, .coerce "age" (.long 4) .int, .resolve "name" .text .text,
      .coerce "age" (.text "7") .int], call.target = kinds call.field := by
    intro call hcall
    simp only [List.mem_cons, List.not_mem_nil, or_false] at hcall
    rcases hcall with rfl | rfl | rfl | rfl <;> rfl
  have hall := asUncached_of_kinds hk
  exact ⟨kinds, _, rfl, hk, hall, hall.resolutions_eq _ [] rfl, hall.conversions _ _ _ _ [] rfl⟩

end CoercionCache

end QueryRows
