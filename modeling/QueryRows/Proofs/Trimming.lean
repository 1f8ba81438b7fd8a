import Mathlib.Data.List.DropRight
import QueryRows.Text.Blank
/-!
# Trimming — the blanks around a text

A text without a blank at either end is trimmed to itself (`trim_eq_self_of_ends`).  Trimming leaves such a text, so a
text that is trimmed once is trimmed for good (`trim_trim`).
-/
namespace QueryRows
namespace Text

theorem dropWhile_eq_self_iff {p : Char → Bool} {cs : List Char} :
    cs.dropWhile p = cs ↔ ∀ c ∈ cs.head?, p c = false := by
  rw [List.dropWhile_eq_self_iff]
  cases cs with
  | nil => simp
  | cons c cs => simp

theorem trimStart_eq_self_iff {cs : List Char} : trimStart cs = cs ↔ ∀ c ∈ cs.head?, isBlank c = false :=
  dropWhile_eq_self_iff

theorem dropEndWhile_eq_self_iff {p : Char → Bool} {cs : List Char} :
    dropEndWhile p cs = cs ↔ ∀ c ∈ cs.getLast?, p c = false := by
  rw [dropEndWhile, List.reverse_eq_iff, dropWhile_eq_self_iff, List.head?_reverse]

theorem trimEnd_eq_self_iff {cs : List Char} : trimEnd cs = cs ↔ ∀ c ∈ cs.getLast?, isBlank c = false :=
  dropEndWhile_eq_self_iff

/-- What is trimmed off at the end is blank, and what is left has no blank there. -/
theorem trimEnd_append_blanks (cs : List Char) :
    (∃ blanks, (∀ c ∈ blanks, isBlank c = true) ∧ cs = trimEnd cs ++ blanks) ∧
      ∀ c ∈ (trimEnd cs).getLast?, isBlank c = false := by
  refine ⟨⟨(cs.reverse.takeWhile isBlank).reverse, fun c hc => ?_, ?_⟩, ?_⟩
  · exact List.mem_takeWhile_imp (List.mem_reverse.1 hc)
  · rw [trimEnd, dropEndWhile, ← List.reverse_append, List.takeWhile_append_dropWhile, List.reverse_reverse]
  · exact trimEnd_eq_self_iff.1 (List.rdropWhile_idempotent isBlank cs)

theorem trim_eq_self_of_ends {cs : List Char} (hfirst : ∀ c ∈ cs.head?, isBlank c = false)
    (hlast : ∀ c ∈ cs.getLast?, isBlank c = false) : trim cs = cs := by
  rw [trim, trimStart_eq_self_iff.2 hfirst, trimEnd_eq_self_iff.2 hlast]

theorem trim_eq_self {cs : List Char} (h : ∀ c ∈ cs, isBlank c = false) : trim cs = cs :=
  trim_eq_self_of_ends (fun c hc => h c (List.mem_of_head? hc)) fun c hc => h c (List.mem_of_getLast? hc)

/-- **A text is trimmed once and for all.** -/
theorem trim_trim (cs : List Char) : trim (trim cs) = trim cs := by
  have hstart : trimStart (trimStart cs) = trimStart cs := List.dropWhile_idempotent isBlank cs
  refine trim_eq_self_of_ends (fun c hc => ?_) (trimEnd_append_blanks (trimStart cs)).2
  -- what is trimmed at the end as well begins as before
  obtain ⟨dropped, hdropped⟩ : trim cs <+: trimStart cs := List.rdropWhile_prefix isBlank (trimStart cs)
  refine trimStart_eq_self_iff.1 hstart c ?_
  rw [← hdropped, List.head?_append, Option.mem_def.1 hc, Option.some_or, Option.mem_some_iff]

/-- Nothing is left of a text exactly when it is blank throughout. -/
theorem trim_eq_nil_iff {cs : List Char} : trim cs = [] ↔ ∀ c ∈ cs, isBlank c = true := by
  constructor
  · intro h c hc
    unfold trim trimEnd dropEndWhile at h
    rw [List.reverse_eq_nil_iff, List.dropWhile_eq_nil_iff] at h
    rw [← List.takeWhile_append_dropWhile (p := isBlank) (l := cs), List.mem_append] at hc
    rcases hc with hc | hc
    · exact List.mem_takeWhile_imp hc
    · exact h c (List.mem_reverse.2 hc)
  · intro h
    have hstart : trimStart cs = [] := List.dropWhile_eq_nil_iff.2 h
    rw [trim, hstart]
    rfl

/-! ### Blanks put around a text -/

/-- A text with blanks put around it. -/
def Padded (cs padded : List Char) : Prop :=
  ∃ front back, (∀ c ∈ front, isBlank c = true) ∧ (∀ c ∈ back, isBlank c = true) ∧ padded = front ++ cs ++ back

theorem padded_of_all {front back : List Char} (hfront : front.all isBlank = true) (hback : back.all isBlank = true)
    (cs : List Char) : Padded cs (front ++ cs ++ back) :=
  ⟨front, back, List.all_eq_true.1 hfront, List.all_eq_true.1 hback, rfl⟩

theorem trimStart_append_of_blank {front : List Char} (h : ∀ c ∈ front, isBlank c = true) (cs : List Char) :
    trimStart (front ++ cs) = trimStart cs := List.dropWhile_append_of_pos h

theorem trimEnd_append_of_blank {back : List Char} (h : ∀ c ∈ back, isBlank c = true) (cs : List Char) :
    trimEnd (cs ++ back) = trimEnd cs := by
  have hback : ∀ c ∈ back.reverse, isBlank c = true := fun c hc => h c (List.mem_reverse.1 hc)
  simp only [trimEnd, dropEndWhile, List.reverse_append, List.dropWhile_append_of_pos hback]

/-- **Blanks put around a text are trimmed with its own.** -/
theorem Padded.trim_eq {cs padded : List Char} (h : Padded cs padded) : trim padded = trim cs := by
  obtain ⟨front, back, hfront, hback, rfl⟩ := h
  rw [List.append_assoc, trim, trim, trimStart_append_of_blank hfront]
  -- the blanks behind a text that is blank itself are dropped with it, all others at its end
  by_cases hblank : trimStart cs = []
  · have hall : trimStart (cs ++ back) = [] := by
      rw [trimStart_append_of_blank (List.dropWhile_eq_nil_iff.1 hblank)]
      exact List.dropWhile_eq_nil_iff.2 hback
    rw [hall, hblank]
  · have hsome : trimStart (cs ++ back) = trimStart cs ++ back := by
      unfold trimStart at hblank ⊢
      rw [List.dropWhile_append, if_neg (by simpa using hblank)]
    rw [hsome, trimEnd_append_of_blank hback]

end Text
end QueryRows
