/-!
# NameMap — entries sorted by name

Every name has one entry, and the entries stand in the order of their names, which is the order of their bytes.
A later entry under a name replaces the earlier one, so two maps that answer every name alike are equal
(`NameMap.ext_get?`).
-/
namespace QueryRows

/-- Puts an entry at its place among sorted entries, over an entry of the same name. -/
def insertEntry {α : Type} (name : String) (v : α) : List (String × α) → List (String × α)
  | [] => [(name, v)]
  | e :: rest =>
    if name < e.1 then (name, v) :: e :: rest
    else if name = e.1 then (name, v) :: rest
    else e :: insertEntry name v rest

/-- Entries put in one after the other: the last one under a name stays. -/
def sortEntries {α : Type} (entries : List (String × α)) : List (String × α) :=
  entries.foldl (fun sorted e => insertEntry e.1 e.2 sorted) []

def SortedByName {α : Type} (entries : List (String × α)) : Prop :=
  entries.Pairwise fun a b => a.1 < b.1

theorem mem_insertEntry {α : Type} {name : String} {v : α} {e : String × α} :
    ∀ {entries : List (String × α)}, e ∈ insertEntry name v entries → e = (name, v) ∨ e ∈ entries
  | [], h => by simpa [insertEntry] using h
  | a :: rest, h => by
    unfold insertEntry at h
    split at h
    · simpa using h
    · split at h
      · rcases List.mem_cons.1 h with h | h
        · exact .inl h
        · exact .inr (List.mem_cons_of_mem _ h)
      · rcases List.mem_cons.1 h with h | h
        · exact .inr (by simp [h])
        · exact (mem_insertEntry h).imp_right (List.mem_cons_of_mem _)

theorem sortedByName_insertEntry {α : Type} (name : String) (v : α) :
    ∀ {entries : List (String × α)}, SortedByName entries → SortedByName (insertEntry name v entries)
  | [], _ => by simp [insertEntry, SortedByName]
  | a :: rest, h => by
    unfold insertEntry
    obtain ⟨ha, hr⟩ := List.pairwise_cons.1 h
    split
    · rename_i hlt
      refine List.pairwise_cons.2 ⟨fun b hb => ?_, h⟩
      rcases List.mem_cons.1 hb with rfl | hb
      · exact hlt
      · exact String.lt_trans hlt (ha b hb)
    · split
      · rename_i heq
        exact List.pairwise_cons.2 ⟨fun b hb => heq ▸ ha b hb, hr⟩
      · rename_i hlt heq
        refine List.pairwise_cons.2 ⟨fun b hb => ?_, sortedByName_insertEntry name v hr⟩
        rcases mem_insertEntry hb with rfl | hb
        · by_cases h : a.1 < name
          · exact h
          · exact absurd (String.le_antisymm (String.not_lt.1 h) (String.not_lt.1 hlt)) heq
        · exact ha b hb

theorem sortedByName_sortEntries {α : Type} (entries : List (String × α)) :
    SortedByName (sortEntries entries) := by
  unfold sortEntries
  generalize hs : ([] : List (String × α)) = start
  have h : SortedByName start := by subst hs; exact List.Pairwise.nil
  clear hs
  induction entries generalizing start with
  | nil => exact h
  | cons e rest ih => exact ih _ (sortedByName_insertEntry e.1 e.2 h)

theorem lookup_eq_none_of_lt {α : Type} {name : String} :
    ∀ {entries : List (String × α)}, (∀ e ∈ entries, name < e.1) → entries.lookup name = none
  | [], _ => rfl
  | (k, v) :: rest, h => by
    have hne : (name == k) = false :=
      beq_eq_false_iff_ne.2 fun he => String.lt_irrefl k (he ▸ h (k, v) (by simp))
    rw [List.lookup_cons, hne]
    exact lookup_eq_none_of_lt fun e he => h e (List.mem_cons_of_mem _ he)

theorem lookup_cons_of_lt {α : Type} {name : String} {e : String × α} {entries : List (String × α)}
    (h : SortedByName (e :: entries)) (hlt : name < e.1) : (e :: entries).lookup name = none := by
  refine lookup_eq_none_of_lt fun x hx => ?_
  rcases List.mem_cons.1 hx with rfl | hx
  · exact hlt
  · exact String.lt_trans hlt ((List.pairwise_cons.1 h).1 x hx)

/-- **Sorted entries that answer every name alike are equal.** -/
theorem eq_of_lookup_eq {α : Type} :
    ∀ {as bs : List (String × α)}, SortedByName as → SortedByName bs →
      (∀ name, as.lookup name = bs.lookup name) → as = bs
  | [], [], _, _, _ => rfl
  | [], (k, v) :: bs, _, _, h => by simpa [List.lookup_cons] using h k
  | (k, v) :: as, [], _, _, h => by simpa [List.lookup_cons] using h k
  | (k, v) :: as, (k', v') :: bs, ha, hb, h => by
    obtain ⟨ha1, ha2⟩ := List.pairwise_cons.1 ha
    obtain ⟨hb1, hb2⟩ := List.pairwise_cons.1 hb
    have hk : k = k' := by
      refine String.le_antisymm (String.not_lt.1 fun hlt => ?_) (String.not_lt.1 fun hlt => ?_)
      · simpa [lookup_cons_of_lt ha hlt, List.lookup_cons] using h k'
      · simpa [lookup_cons_of_lt hb hlt, List.lookup_cons] using h k
    subst hk
    have hv : v = v' := by simpa [List.lookup_cons] using h k
    have hrest : as = bs := by
      refine eq_of_lookup_eq ha2 hb2 fun name => ?_
      by_cases hn : name = k
      · rw [hn, lookup_eq_none_of_lt ha1, lookup_eq_none_of_lt hb1]
      · simpa [List.lookup_cons, beq_eq_false_iff_ne.2 hn] using h name
    rw [hrest, hv]

theorem lookup_insertEntry_self {α : Type} (name : String) (v : α) :
    ∀ entries : List (String × α), (insertEntry name v entries).lookup name = some v
  | [] => by simp [insertEntry]
  | (k, w) :: rest => by
    unfold insertEntry
    split
    · simp
    · split
      · simp
      · rename_i hne
        rw [List.lookup_cons, beq_eq_false_iff_ne.2 hne]
        exact lookup_insertEntry_self name v rest

theorem lookup_insertEntry_of_ne {α : Type} {name other : String} (v : α) (h : other ≠ name) :
    ∀ entries : List (String × α), (insertEntry name v entries).lookup other = entries.lookup other
  | [] => by simp [insertEntry, List.lookup_cons, beq_eq_false_iff_ne.2 h]
  | (k, w) :: rest => by
    unfold insertEntry
    split
    · simp [List.lookup_cons, beq_eq_false_iff_ne.2 h]
    · split
      · rename_i heq
        subst heq
        simp [List.lookup_cons, beq_eq_false_iff_ne.2 h]
      · simp only [List.lookup_cons, lookup_insertEntry_of_ne v h rest]

/-! ### Entries sorted -/

theorem SortedByName.nodup {α : Type} {entries : List (String × α)} (h : SortedByName entries) :
    (entries.map (·.1)).Nodup :=
  List.pairwise_map.2 (List.Pairwise.imp String.ne_of_lt h)

/-- **Under names that are all different, an entry is the one that is found.** -/
theorem mem_iff_lookup {α : Type} {name : String} {v : α} : ∀ {entries : List (String × α)},
    (entries.map (·.1)).Nodup → ((name, v) ∈ entries ↔ entries.lookup name = some v)
  | [], _ => by simp
  | (k, w) :: rest, h => by
    rw [List.map_cons, List.nodup_cons] at h
    rw [List.mem_cons, List.lookup_cons]
    by_cases hk : name = k
    · subst hk
      have hother : (name, v) ∉ rest := fun hmem => h.1 (List.mem_map_of_mem (f := (·.1)) hmem)
      simp [hother, eq_comm]
    · simp only [beq_eq_false_iff_ne.2 hk, Prod.mk.injEq, hk, false_and, false_or]
      exact mem_iff_lookup h.2

theorem perm_insertEntry {α : Type} {name : String} (v : α) :
    ∀ {entries : List (String × α)}, name ∉ entries.map (·.1) → (insertEntry name v entries).Perm ((name, v) :: entries)
  | [], _ => .refl _
  | e :: rest, h => by
    rw [List.map_cons, List.mem_cons, not_or] at h
    unfold insertEntry
    split
    · exact .refl _
    · rw [if_neg h.1]
      exact ((perm_insertEntry v h.2).cons e).trans (.swap ..)

theorem perm_foldl_insertEntry {α : Type} : ∀ {entries sorted : List (String × α)},
    ((entries ++ sorted).map (·.1)).Nodup →
      (entries.foldl (fun sorted e => insertEntry e.1 e.2 sorted) sorted).Perm (entries ++ sorted)
  | [], _, _ => .refl _
  | e :: rest, sorted, h => by
    have hnew : e.1 ∉ sorted.map (·.1) := fun hmem => by
      rw [List.cons_append, List.map_cons, List.nodup_cons, List.map_append, List.mem_append, not_or] at h
      exact h.1.2 hmem
    have hmove : (rest ++ insertEntry e.1 e.2 sorted).Perm (e :: rest ++ sorted) :=
      ((perm_insertEntry e.2 hnew).append_left rest).trans List.perm_middle
    exact (perm_foldl_insertEntry ((hmove.map _).nodup_iff.2 h)).trans hmove

/-- **Entries under different names are all kept.** -/
theorem perm_sortEntries {α : Type} {entries : List (String × α)} (h : (entries.map (·.1)).Nodup) :
    (sortEntries entries).Perm entries := by
  have hperm := @perm_foldl_insertEntry α entries [] (by rwa [List.append_nil])
  rwa [List.append_nil] at hperm

theorem lookup_foldl_insertEntry {α : Type} (name : String) : ∀ entries sorted : List (String × α),
    (entries.foldl (fun sorted e => insertEntry e.1 e.2 sorted) sorted).lookup name =
      ((entries.filter (·.1 == name)).getLast?.map (·.2)).or (sorted.lookup name)
  | [], _ => rfl
  | e :: rest, sorted => by
    rw [List.foldl_cons, lookup_foldl_insertEntry name rest, List.filter_cons]
    by_cases h : e.1 = name
    · rw [if_pos (beq_iff_eq.2 h), List.getLast?_cons, ← h, lookup_insertEntry_self]
      cases (rest.filter (·.1 == e.1)).getLast? <;> rfl
    · rw [if_neg (by simpa using h), lookup_insertEntry_of_ne _ (Ne.symm h)]

/-- **The last entry under a name stays.** -/
theorem lookup_sortEntries {α : Type} (name : String) (entries : List (String × α)) :
    (sortEntries entries).lookup name = (entries.filter (·.1 == name)).getLast?.map (·.2) := by
  rw [sortEntries, lookup_foldl_insertEntry, List.lookup_nil, Option.or_none]

theorem mem_of_mem_sortEntries {α : Type} {e : String × α} {entries : List (String × α)}
    (h : e ∈ sortEntries entries) : e ∈ entries := by
  obtain ⟨name, v⟩ := e
  rw [mem_iff_lookup (sortedByName_sortEntries entries).nodup, lookup_sortEntries, Option.map_eq_some_iff] at h
  obtain ⟨x, hx, rfl⟩ := h
  obtain ⟨hmem, hname⟩ := List.mem_filter.1 (List.mem_of_getLast? hx)
  obtain rfl := beq_iff_eq.1 hname
  exact hmem

/-! ### Maps -/

/-- Entries sorted by name, one under each name. -/
structure NameMap (α : Type) where
  entries : List (String × α)
  sorted : SortedByName entries

namespace NameMap

variable {α : Type}

def empty : NameMap α := ⟨[], List.Pairwise.nil⟩

/-- **The map with a value under a name.** -/
def insert (m : NameMap α) (name : String) (v : α) : NameMap α :=
  ⟨insertEntry name v m.entries, sortedByName_insertEntry name v m.sorted⟩

/-- The map of entries, the last one under a name. -/
def ofList (entries : List (String × α)) : NameMap α := ⟨sortEntries entries, sortedByName_sortEntries entries⟩

def get? (m : NameMap α) (name : String) : Option α := m.entries.lookup name

def isEmpty (m : NameMap α) : Bool := m.entries.isEmpty

theorem get?_insert_self (m : NameMap α) (name : String) (v : α) : (m.insert name v).get? name = some v :=
  lookup_insertEntry_self name v m.entries

theorem get?_insert_of_ne (m : NameMap α) {name other : String} (v : α) (h : other ≠ name) :
    (m.insert name v).get? other = m.get? other :=
  lookup_insertEntry_of_ne v h m.entries

/-- **Maps that answer every name alike are equal.** -/
theorem ext_get? {m n : NameMap α} (h : ∀ name, m.get? name = n.get? name) : m = n := by
  obtain ⟨as, ha⟩ := m
  obtain ⟨bs, hb⟩ := n
  have : as = bs := eq_of_lookup_eq ha hb h
  subst this
  rfl

end NameMap

end QueryRows
