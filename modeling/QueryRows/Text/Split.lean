/-!
# Split — texts cut at a separator

`split` cuts a text at every occurrence of a character; joining the parts with that character gives the text
back (`intercalate_split`), and no part holds it (`not_mem_of_mem_split`).  Parts that do not hold it are got back
from the text they are joined to (`split_intercalate`).
-/
namespace QueryRows
namespace Text

/-- **The parts between the separators**: one more than there are separators. -/
def split (sep : Char) : List Char → List (List Char)
  | [] => [[]]
  | c :: cs =>
    if c = sep then [] :: split sep cs
    else match split sep cs with
      | [] => [[c]]
      | part :: parts => (c :: part) :: parts

/-- The text before and after the first separator, or nothing when there is none. -/
def splitOnce (sep : Char) : List Char → Option (List Char × List Char)
  | [] => none
  | c :: cs =>
    if c = sep then some ([], cs)
    else (splitOnce sep cs).map fun p => (c :: p.1, p.2)

theorem split_ne_nil (sep : Char) : ∀ cs, split sep cs ≠ []
  | [] => by simp [split]
  | c :: cs => by
    unfold split
    split
    · simp
    · split <;> simp

theorem intercalate_split (sep : Char) : ∀ cs, [sep].intercalate (split sep cs) = cs
  | [] => by simp [split]
  | c :: cs => by
    have ih := intercalate_split sep cs
    unfold split
    split
    · rename_i h
      subst h
      cases hs : split c cs with
      | nil => exact absurd hs (split_ne_nil _ _)
      | cons part parts => rw [hs] at ih; simpa [List.intercalate] using ih
    · cases hs : split sep cs with
      | nil => exact absurd hs (split_ne_nil _ _)
      | cons part parts =>
        rw [hs] at ih
        cases parts <;> simp_all [List.intercalate]

theorem not_mem_of_mem_split (sep : Char) : ∀ cs, ∀ part ∈ split sep cs, sep ∉ part
  | [], part, h => by simp [split] at h; simp [h]
  | c :: cs, part, h => by
    have ih := not_mem_of_mem_split sep cs
    unfold split at h
    split at h
    · rcases List.mem_cons.1 h with rfl | h
      · simp
      · exact ih part h
    · rename_i hc
      cases hs : split sep cs with
      | nil => exact absurd hs (split_ne_nil _ _)
      | cons p ps =>
        rw [hs] at h ih
        rcases List.mem_cons.1 h with rfl | h
        · intro hm
          rcases List.mem_cons.1 hm with rfl | hm
          · exact hc rfl
          · exact ih p (by simp) hm
        · exact ih part (by simp [h])

theorem split_eq_splitOn (sep : Char) : ∀ cs, split sep cs = cs.splitOn sep
  | [] => rfl
  | c :: cs => by
    rw [split, List.splitOn_cons_eq_if_modifyHead, ← split_eq_splitOn sep cs]
    by_cases h : c = sep
    · simp [h]
    · cases hs : split sep cs with
      | nil => exact absurd hs (split_ne_nil sep cs)
      | cons part parts => simp [h]

theorem split_intercalate {sep : Char} {parts : List (List Char)} (hne : parts ≠ []) (h : ∀ part ∈ parts, sep ∉ part) :
    split sep ([sep].intercalate parts) = parts := by
  rw [split_eq_splitOn]
  exact List.splitOn_intercalate sep h hne

theorem mem_of_mem_intercalate {sep : List Char} {c : Char} : ∀ {parts : List (List Char)}, c ∈ sep.intercalate parts →
    c ∈ sep ∨ ∃ part ∈ parts, c ∈ part
  | [], h => by cases h
  | [part], h => .inr ⟨part, by simpa using h⟩
  | part :: next :: parts, h => by
    rw [List.intercalate_cons_cons, List.mem_append, List.mem_append] at h
    rcases h with (h | h) | h
    · exact .inr ⟨part, by simp, h⟩
    · exact .inl h
    · exact (mem_of_mem_intercalate h).imp_right fun ⟨p, hp, hc⟩ => ⟨p, List.mem_cons_of_mem _ hp, hc⟩

theorem splitOnce_eq_some_iff {sep : Char} {before after : List Char} : ∀ {cs : List Char},
    splitOnce sep cs = some (before, after) ↔ cs = before ++ sep :: after ∧ sep ∉ before
  | [] => by simp [splitOnce]
  | c :: cs => by
    rw [splitOnce]
    by_cases h : c = sep
    · subst h
      rw [if_pos rfl]
      constructor
      · rintro ⟨⟩
        simp
      · rintro ⟨hcs, hnot⟩
        cases before with
        | nil => simp_all
        | cons d before => simp_all
    · rw [if_neg h, Option.map_eq_some_iff]
      constructor
      · rintro ⟨p, hp, heq⟩
        cases heq
        obtain ⟨hcs, hnot⟩ := splitOnce_eq_some_iff.1 hp
        exact ⟨by rw [hcs]; rfl, by simp [hnot, Ne.symm h]⟩
      · rintro ⟨hcs, hnot⟩
        cases before with
        | nil => exact absurd (List.cons.inj hcs).1 h
        | cons d before =>
          obtain ⟨rfl, hrest⟩ := List.cons.inj hcs
          exact ⟨(before, after), splitOnce_eq_some_iff.2 ⟨hrest, fun hm => hnot (List.mem_cons_of_mem _ hm)⟩, rfl⟩

end Text
end QueryRows
