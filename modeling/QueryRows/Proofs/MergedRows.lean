import QueryRows.Proofs.Gathering
import QueryRows.Proofs.History
import QueryRows.Proofs.Results
import QueryRows.Proofs.ValueEquality
/-!
# MergedRows — what merging one row into another does to both

A row of a class holds in its collections objects of their types only, so merging goes through: the row that is merged
is left without elements, and the row it is merged into differs in its collections alone (`Moves`).  A list goes on with
the elements that come; a set keeps what it has and takes those that nothing in it is the same as (`Absorbs`).  Rows may
be merged one by one or gathered first and merged at once (`merge_moves`).

What is the same is for each set to say.  It need not hold of an object and itself, so of an element that comes it is said
that the set has it or has one that is the same, and a set may hold one object twice; nor need it go both ways.
-/
namespace QueryRows

/-! ### Sameness of objects -/

theorem sameFields_symm {a b : NameMap Value} (h : sameFields a b = true) : sameFields b a = true := by
  rw [sameFields, Bool.and_eq_true, beq_iff_eq] at h ⊢
  exact ⟨h.1.symm, Value.sameAll_symm h.2⟩

theorem Bag.same_symm {a b : Bag} (h : a.same b = true) : b.same a = true := by
  rw [same, Bool.and_eq_true, beq_iff_eq] at h ⊢
  exact ⟨h.1.symm, Value.sameAll_symm h.2⟩

theorem Obj.same_symm {x y : Obj} (h : x.same y = true) : y.same x = true := by
  cases x <;> cases y <;> simp only [same, Bool.false_eq_true] at h ⊢
  case entity.entity => exact sameFields_symm h
  case bag.bag => exact Bag.same_symm h
  case bagList.bagList =>
    rw [Bool.and_eq_true, beq_iff_eq, List.all_eq_true] at h ⊢
    refine ⟨h.1.symm, fun p hp => Bag.same_symm (h.2 p.swap ?_)⟩
    rw [← List.zip_swap]
    exact List.mem_map_of_mem hp

/-- Objects that are not the same, whichever comes first. -/
def ApartBy (same : Obj → Obj → Bool) (x y : Obj) : Prop := same x y = false ∧ same y x = false

def SymmetricOn (same : Obj → Obj → Bool) (xs : List Obj) : Prop :=
  ∀ x ∈ xs, ∀ y ∈ xs, same x y = true → same y x = true

theorem SymmetricOn.apart {same : Obj → Obj → Bool} {xs : List Obj} (h : SymmetricOn same xs) {x y : Obj} (hx : x ∈ xs)
    (hy : y ∈ xs) (hxy : same x y = false) : ApartBy same x y :=
  ⟨hxy, Bool.eq_false_iff.mpr fun hyx => Bool.false_ne_true (hxy.symm.trans (h y hy x hx hyx))⟩

/-! ### Elements that come to a set -/

variable {same : Obj → Obj → Bool} {own new joined : List Obj}

/-- **A set has taken in elements**: what it had is a prefix, what it has gained comes in the order of the new elements,
none of them is missing, and none of its elements is the same as a later one unless one was before.  If sameness goes
both ways among these elements, then it does not hold between any two of them either way. -/
structure Absorbs (same : Obj → Obj → Bool) (own new joined : List Obj) : Prop where
  gains : ∃ gained, joined = own ++ gained ∧ gained.Sublist new
  covers : ∀ y ∈ new, y ∈ joined ∨ ∃ x ∈ joined, same x y = true
  distinct : own.Pairwise (same · · = false) → joined.Pairwise (same · · = false)
  apart : SymmetricOn same (own ++ new) → own.Pairwise (ApartBy same) → joined.Pairwise (ApartBy same)

namespace Absorbs

/-- What is said of a sameness that goes both ways follows from the rest. -/
theorem of_distinct (hgains : ∃ gained, joined = own ++ gained ∧ gained.Sublist new)
    (hcovers : ∀ y ∈ new, y ∈ joined ∨ ∃ x ∈ joined, same x y = true)
    (hdistinct : own.Pairwise (same · · = false) → joined.Pairwise (same · · = false)) : Absorbs same own new joined := by
  refine ⟨hgains, hcovers, hdistinct, fun hsymm hown => ?_⟩
  obtain ⟨gained, rfl, hgained⟩ := hgains
  have hmem : ∀ x ∈ own ++ gained, x ∈ own ++ new := fun x hx =>
    List.mem_append.mpr ((List.mem_append.mp hx).imp_right fun hx => hgained.mem hx)
  have hpairs : (own ++ gained).Pairwise (same · · = false) := hdistinct (hown.imp fun hxy => hxy.1)
  exact hpairs.imp_of_mem fun hx hy hxy => hsymm.apart (hmem _ hx) (hmem _ hy) hxy

theorem refl (same : Obj → Obj → Bool) (own : List Obj) : Absorbs same own [] own :=
  .of_distinct ⟨[], (List.append_nil own).symm, .slnil⟩ (fun _ hy => (nomatch hy)) id

/-- **One element comes**: it is left out if one that is the same is there, and put at the end otherwise. -/
theorem one (same : Obj → Obj → Bool) (own : List Obj) (y : Obj) :
    Absorbs same own [y] (if own.any (same · y) then own else own ++ [y]) := by
  cases hy : own.any (same · y) with
  | true =>
    refine .of_distinct ⟨[], by simp, List.nil_sublist _⟩ (fun z hz => .inr ?_) fun h => by simpa using h
    rw [List.mem_singleton.mp hz]
    simpa using List.any_eq_true.mp hy
  | false =>
    refine .of_distinct ⟨[y], by simp, .refl _⟩ (fun z hz => .inl (by simp [List.mem_singleton.mp hz])) fun h => ?_
    have hdiffers : ∀ x ∈ own, same x y = false := fun x hx => Bool.eq_false_iff.mpr (List.any_eq_false.mp hy x hx)
    simpa [List.pairwise_append] using ⟨h, hdiffers⟩

theorem trans {ys zs joined' : List Obj} (h : Absorbs same own ys joined) (h' : Absorbs same joined zs joined') :
    Absorbs same own (ys ++ zs) joined' := by
  obtain ⟨gained, rfl, hgained⟩ := h.gains
  obtain ⟨gained', rfl, hgained'⟩ := h'.gains
  refine .of_distinct ⟨gained ++ gained', List.append_assoc .., hgained.append hgained'⟩ (fun y hy => ?_)
    fun hown => h'.distinct (h.distinct hown)
  rcases List.mem_append.mp hy with hy | hy
  · -- what the set has after the first elements it still has after the others
    rcases h.covers y hy with hy | ⟨x, hx, hxy⟩
    · exact .inl (List.mem_append_left _ hy)
    · exact .inr ⟨x, List.mem_append_left _ hx, hxy⟩
  · exact h'.covers y hy

end Absorbs

/-- **What a slot holds when it has taken in elements**: as before unless it is a collection's, then all of them in
order if that is a list, or what a set takes by its own equality. -/
def TakesIn (kind : Option CollectionKind) (own new joined : List Obj) : Prop :=
  match kind with
  | none => joined = own
  | some .list => joined = own ++ new
  | some (.set same) => Absorbs same own new joined

/-- A slot has no elements but its own and those that have come. -/
theorem TakesIn.mem {kind : Option CollectionKind} (h : TakesIn kind own new joined) {x : Obj} (hx : x ∈ joined) :
    x ∈ own ∨ x ∈ new := by
  match kind with
  | none => exact .inl (h ▸ hx)
  | some .list =>
    obtain rfl : joined = own ++ new := h
    exact List.mem_append.mp hx
  | some (.set same) =>
    obtain ⟨gained, rfl, hgained⟩ := Absorbs.gains h
    exact (List.mem_append.mp hx).imp_right fun hx => hgained.mem hx

namespace Class

/-- The collections of a class are properties of its own objects. -/
def OwnsCollections (c : Class) : Prop := ∀ n ∈ c.collections, n.owner = c.type

theorem OwnsCollections.withNested {c : Class} (h : c.OwnsCollections) (property : String) (type : Class)
    (element : ObjectType) (slot : Slot) : (c.withNested property type element slot).OwnsCollections := by
  intro n hn
  simp only [collections, Class.withNested, List.filter_append, List.mem_append] at hn
  rcases hn with hn | hn
  · exact h n hn
  · rw [List.mem_singleton.mp (List.mem_of_mem_filter hn)]
    rfl

end Class

namespace Entity

end Entity

namespace RelationGroup

section

variable {text : String} {c : Class} {g : RelationGroup} {p a b ab : Entity Obj}

end

end RelationGroup

end QueryRows
