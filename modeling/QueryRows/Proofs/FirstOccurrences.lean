import Mathlib.Data.List.Induction
import Mathlib.Data.List.Nodup
import QueryRows.Bag
import QueryRows.Metadata
import QueryRows.Template
/-!
# FirstOccurrences — names listed once, in the order in which they come up

Columns, the field names of bags and the placeholders of a template are gathered in one way: a name goes to the end of
a list unless the list has it already.  What comes of it are the first occurrences, `List.eraseDups`
(`foldl_unless_contains`), also where a style makes one column of several names (`Metadata.foldl_add`).  They are the
one list with the same names in the order in which those first come up (`firstsOf_iff`).
-/
namespace QueryRows

section

variable {α : Type} [BEq α] [LawfulBEq α]

/-- **One more element is a first occurrence or none.** -/
theorem eraseDups_concat (xs : List α) (x : α) :
    (xs ++ [x]).eraseDups = if xs.contains x then xs.eraseDups else xs.eraseDups ++ [x] := by
  rw [List.eraseDups_append, List.removeAll]
  cases hx : xs.contains x with
  | true =>
    rw [List.filter_cons_of_neg (by rw [List.elem_eq_contains, hx]; decide), List.filter_nil, List.eraseDups_nil,
      List.append_nil, if_pos rfl]
  | false =>
    rw [List.filter_cons_of_pos (by rw [List.elem_eq_contains, hx]; rfl), List.filter_nil, List.eraseDups_cons,
      List.filter_nil, List.eraseDups_nil, if_neg Bool.false_ne_true]

theorem contains_eraseDups (xs : List α) (x : α) : xs.eraseDups.contains x = xs.contains x := by
  rw [Bool.eq_iff_iff, List.contains_iff_mem, List.contains_iff_mem, List.mem_eraseDups]

/-- **The first occurrences of a list**: its elements in the order in which they first come up. -/
structure FirstsOf (xs firsts : List α) : Prop where
  mem_iff : ∀ x, x ∈ firsts ↔ x ∈ xs
  ordered : firsts.Pairwise fun a b => xs.idxOf a < xs.idxOf b

variable {xs firsts : List α}

omit [LawfulBEq α] in
theorem FirstsOf.nodup (h : FirstsOf xs firsts) : firsts.Nodup := by
  refine h.ordered.imp fun hlt heq => ?_
  rw [heq] at hlt
  exact Nat.lt_irrefl _ hlt

/-- The element that comes next is new, or has come up before and changes nothing. -/
theorem FirstsOf.concat (h : FirstsOf xs firsts) (x : α) :
    FirstsOf (xs ++ [x]) (if firsts.contains x then firsts else firsts ++ [x]) := by
  have hkeeps : ∀ a ∈ firsts, (xs ++ [x]).idxOf a = xs.idxOf a := fun a ha => by
    rw [List.idxOf_append, if_pos ((h.mem_iff a).1 ha)]
  have hordered : firsts.Pairwise fun a b => (xs ++ [x]).idxOf a < (xs ++ [x]).idxOf b := by
    refine h.ordered.imp_of_mem fun ha hb hlt => ?_
    rw [hkeeps _ ha, hkeeps _ hb]
    exact hlt
  split
  · rename_i hx
    have hmem : x ∈ xs := (h.mem_iff x).1 (List.contains_iff_mem.1 hx)
    refine ⟨fun a => ?_, hordered⟩
    rw [h.mem_iff, List.mem_append, List.mem_singleton]
    exact ⟨.inl, fun ha => ha.elim id fun heq => heq ▸ hmem⟩
  · rename_i hx
    have hmem : x ∉ xs := fun hmem => hx (List.contains_iff_mem.2 ((h.mem_iff x).2 hmem))
    refine ⟨fun a => by rw [List.mem_append, List.mem_append, h.mem_iff], ?_⟩
    refine List.pairwise_append.2 ⟨hordered, List.pairwise_singleton _ _, fun a ha b hb => ?_⟩
    obtain rfl := List.mem_singleton.1 hb
    rw [hkeeps a ha, List.idxOf_append, if_neg hmem]
    have := List.idxOf_lt_length_of_mem ((h.mem_iff a).1 ha)
    omega

theorem firstsOf_eraseDups (xs : List α) : FirstsOf xs xs.eraseDups := by
  induction xs using List.reverseRecOn with
  | nil => exact ⟨fun _ => Iff.rfl, List.Pairwise.nil⟩
  | append_singleton xs x ih =>
    rw [eraseDups_concat, ← contains_eraseDups]
    exact ih.concat x

theorem nodup_eraseDups (xs : List α) : xs.eraseDups.Nodup := (firstsOf_eraseDups xs).nodup

/-- **A list has its first occurrences in one way only.** -/
theorem firstsOf_iff : FirstsOf xs firsts ↔ firsts = xs.eraseDups := by
  refine ⟨fun h => ?_, fun h => h ▸ firstsOf_eraseDups xs⟩
  have hperm : firsts.Perm xs.eraseDups :=
    (List.perm_ext_iff_of_nodup h.nodup (nodup_eraseDups xs)).2 fun x => by rw [h.mem_iff, List.mem_eraseDups]
  refine hperm.eq_of_pairwise (fun a b _ _ hab hba => ?_) h.ordered (firstsOf_eraseDups xs).ordered
  omega

/-- **Gathering what is not there yet** gives the first occurrences. -/
theorem foldl_unless_contains (xs ys : List α) :
    ys.foldl (fun seen y => if seen.contains y then seen else seen ++ [y]) xs.eraseDups = (xs ++ ys).eraseDups := by
  induction ys using List.reverseRecOn with
  | nil => rw [List.append_nil, List.foldl_nil]
  | append_singleton ys y ih =>
    rw [List.foldl_concat, ih, contains_eraseDups, ← List.append_assoc, eraseDups_concat]

theorem eraseDups_append_eraseDups (xs ys : List α) : (xs ++ ys.eraseDups).eraseDups = (xs ++ ys).eraseDups := by
  induction ys using List.reverseRecOn with
  | nil => rfl
  | append_singleton ys y ih =>
    rw [eraseDups_concat, ← List.append_assoc, eraseDups_concat, ← ih]
    cases hy : ys.contains y with
    | true =>
      have hboth : (xs ++ ys).contains y = true :=
        List.contains_iff_mem.2 (List.mem_append_right _ (List.contains_iff_mem.1 hy))
      rw [if_pos rfl, hboth, if_pos rfl]
    | false =>
      have hboth : (xs ++ ys.eraseDups).contains y = (xs ++ ys).contains y := by
        rw [← contains_eraseDups, ih, contains_eraseDups]
      rw [if_neg Bool.false_ne_true, ← List.append_assoc, eraseDups_concat, hboth]

/-- **The first occurrences among those of each part** are those among all parts. -/
theorem eraseDups_flatMap_eraseDups {β : Type} (f : β → List α) (bs : List β) :
    (bs.flatMap fun b => (f b).eraseDups).eraseDups = (bs.flatMap f).eraseDups := by
  induction bs using List.reverseRecOn with
  | nil => rfl
  | append_singleton bs b ih =>
    rw [List.flatMap_append, List.flatMap_append, List.flatMap_singleton, List.flatMap_singleton,
      eraseDups_append_eraseDups, ← foldl_unless_contains, ih, foldl_unless_contains]

end

theorem BagList.columns_eq (l : BagList) : l.columns = (l.rows.flatMap fun b => b.fields.map (·.1)).eraseDups :=
  foldl_unless_contains [] _

theorem Template.tokens_eq (t : Template) : t.tokens = (t.segments.flatMap fun s => tokenNames s.pieces).eraseDups :=
  foldl_unless_contains [] _

namespace Metadata

/-- The columns of fields, in a style. -/
def ofFields (style : NameStyle) (fields : List String) : Metadata := ⟨style, (fields.map style.apply).eraseDups⟩

theorem add_ofFields (style : NameStyle) (fields : List String) (field : String) :
    (ofFields style fields).add field = ofFields style (fields ++ [field]) := by
  rw [ofFields, ofFields, List.map_append, List.map_singleton, eraseDups_concat, add, knows, contains_eraseDups]
  split <;> rfl

theorem foldl_add (style : NameStyle) (fields : List String) :
    fields.foldl add (empty style) = ofFields style fields := by
  induction fields using List.reverseRecOn with
  | nil => rfl
  | append_singleton fields field ih => rw [List.foldl_concat, ih, add_ofFields]

theorem ofFields_concat_of_mem {style : NameStyle} {fields : List String} {field : String} (h : field ∈ fields) :
    ofFields style (fields ++ [field]) = ofFields style fields := by
  have hmem : (fields.map style.apply).contains (style.apply field) = true :=
    List.contains_iff_mem.2 (List.mem_map_of_mem h)
  rw [ofFields, ofFields, List.map_append, List.map_singleton, eraseDups_concat, if_pos hmem]

end Metadata

end QueryRows
