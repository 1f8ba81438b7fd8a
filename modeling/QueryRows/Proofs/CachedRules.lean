import QueryRows.Coercion.Cache
/-!
# CachedRules — a cache converts as if it remembered nothing

When every field always comes with the same declared kind, each rule of the cache is the rule of some family for that
kind (`CoercionCache.Follows`).  Then a value is converted as by the rule of its own family (`coerce_fst`), whichever
value of the field resolved the rule.
-/
namespace QueryRows

theorem lookup_append_singleton {α : Type} {entries : List (String × α)} {name other : String} {x y : α}
    (h : (entries ++ [(name, x)]).lookup other = some y) :
    entries.lookup other = some y ∨ other = name ∧ y = x := by
  rw [List.lookup_append] at h
  cases hl : entries.lookup other with
  | some z =>
    rw [hl] at h
    exact .inl h
  | none =>
    rw [hl, Option.none_or, List.lookup_cons, List.lookup_nil] at h
    split at h
    · rename_i hk
      cases h
      exact .inr ⟨by simpa using hk, rfl⟩
    · cases h

theorem coerce_of_isNull {v : Value} (h : v.isNull = true) (target : Kind) : coerce v target = .ok .null := by
  unfold coerce CoercionRule.apply Transform.apply
  rw [if_pos h]

namespace CoercionCache

/-- **Every rule is a rule for the kind that its field is declared with.** -/
def Follows (c : CoercionCache) (kinds : String → Option Kind) : Prop :=
  ∀ field rule, c.rules.lookup field = some rule →
    ∃ target, kinds field = some target ∧ rule = CoercionRule.resolve rule.source target

variable {c : CoercionCache} {kinds : String → Option Kind} {field : String} {target : Kind}

theorem follows_empty (kinds : String → Option Kind) : empty.Follows kinds := fun field rule h => by cases h

theorem Follows.resolve_fst (h : c.Follows kinds) (hk : kinds field = some target) (source : Family) :
    (c.resolve field source target).1 = CoercionRule.resolve (c.resolve field source target).1.source target := by
  unfold resolve
  split
  · rename_i rule hr
    obtain ⟨target', hk', hrule⟩ := h field rule hr
    rw [hk] at hk'
    cases hk'
    exact hrule
  · rfl

theorem Follows.resolve_snd (h : c.Follows kinds) (hk : kinds field = some target) (source : Family) :
    (c.resolve field source target).2.Follows kinds := by
  unfold resolve
  split
  · exact h
  · intro other rule hr
    rcases lookup_append_singleton hr with hr | ⟨rfl, rfl⟩
    · exact h other rule hr
    · exact ⟨target, hk, rfl⟩

/-- **A value is converted as by the rule of its own family.** -/
theorem Follows.coerce_fst (h : c.Follows kinds) (hk : kinds field = some target) (v : Value) :
    (c.coerce field v target).1 = QueryRows.coerce v target := by
  unfold coerce
  split
  · rename_i hnull
    exact (coerce_of_isNull hnull target).symm
  · have hrule := h.resolve_fst hk (Family.of v)
    simp only
    split
    · rename_i hsource
      rw [hsource] at hrule
      rw [hrule]
      rfl
    · rfl

theorem Follows.coerce_snd (h : c.Follows kinds) (hk : kinds field = some target) (v : Value) :
    (c.coerce field v target).2.Follows kinds := by
  unfold coerce
  split
  · exact h
  · simp only
    split <;> exact h.resolve_snd hk (Family.of v)

end CoercionCache

end QueryRows
