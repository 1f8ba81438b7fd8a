import QueryRows.Template.Token
/-!
# TokenName — the longest name at the start of a text

A name is made of identifiers joined by dots (`TokenName`).  What `takeName?` takes is such a name
(`tokenName_of_takeName?`), and no text that follows it makes a longer one (`not_tokenName_of_takeName?`).
-/
namespace QueryRows

/-- An ASCII letter or underscore, then ASCII letters, digits and underscores. -/
def IsIdentifier : List Char → Prop
  | [] => False
  | c :: cs => isIdentifierStart c = true ∧ ∀ d ∈ cs, isIdentifierPart d = true

/-- **Identifiers joined by dots.** -/
inductive TokenName : List Char → Prop
  | identifier {part : List Char} : IsIdentifier part → TokenName part
  | dotted {part rest : List Char} : IsIdentifier part → TokenName rest → TokenName (part ++ '.' :: rest)

theorem isIdentifierPart_of_start {c : Char} (h : isIdentifierStart c = true) : isIdentifierPart c = true := by
  simp only [isIdentifierStart, Bool.or_eq_true] at h
  simp only [isIdentifierPart, Char.isAlphanum, Bool.or_eq_true]
  exact h.imp_left .inl

theorem IsIdentifier.append_part {part : List Char} {c : Char} (h : IsIdentifier part)
    (hc : isIdentifierPart c = true) :
    IsIdentifier (part ++ [c]) := by
  cases part with
  | nil => exact h.elim
  | cons a as =>
    refine ⟨h.1, fun d hd => ?_⟩
    rcases List.mem_append.1 hd with hd | hd
    · exact h.2 d hd
    · rw [List.mem_singleton.1 hd]
      exact hc

theorem IsIdentifier.part_of_mem {part : List Char} (h : IsIdentifier part) :
    ∀ c ∈ part, isIdentifierPart c = true := by
  cases part with
  | nil => exact h.elim
  | cons a as =>
    intro c hc
    rcases List.mem_cons.1 hc with rfl | hc
    · exact isIdentifierPart_of_start h.1
    · exact h.2 c hc

/-- The identifier that stands before the text grows until the text has no more of it. -/
theorem tokenName_takeNameRest (cs : List Char) :
    ∀ part, IsIdentifier part → TokenName (part ++ (takeNameRest cs).1) := by
  fun_induction takeNameRest cs with
  | case1 => intro part h; rw [List.append_nil]; exact .identifier h
  | case2 c rest hc name after hrest ih =>
    intro part h
    rw [hrest] at ih
    exact .dotted h (ih [c] ⟨hc, fun d hd => by cases hd⟩)
  | case3 c rest hc => intro part h; rw [List.append_nil]; exact .identifier h
  | case4 c rest _ hc name after hrest ih =>
    intro part h
    rw [hrest] at ih
    have := ih (part ++ [c]) (h.append_part hc)
    rwa [List.append_assoc] at this
  | case5 c rest _ hc => intro part h; rw [List.append_nil]; exact .identifier h

/-- **What is taken is a name.** -/
theorem tokenName_of_takeName? {cs name after : List Char} (h : takeName? cs = some (name, after)) :
    TokenName name := by
  cases cs with
  | nil => simp [takeName?] at h
  | cons c rest =>
    simp only [takeName?, Option.ite_none_right_eq_some, Option.some.injEq, Prod.mk.injEq] at h
    obtain ⟨hc, rfl, -⟩ := h
    exact tokenName_takeNameRest rest [c] ⟨hc, fun d hd => by cases hd⟩

/-- A name goes on with the text: another character of its last identifier, or a dot and another identifier. -/
def Extends : List Char → Prop
  | [] => False
  | c :: cs => isIdentifierPart c = true ∨ c = '.' ∧ ∃ d ds, cs = d :: ds ∧ isIdentifierStart d = true

theorem TokenName.exists_start {name : List Char} (h : TokenName name) :
    ∃ c cs, name = c :: cs ∧ isIdentifierStart c = true := by
  cases h with
  | identifier hid =>
    cases name with
    | nil => exact hid.elim
    | cons c cs => exact ⟨c, cs, rfl, hid.1⟩
  | @dotted part rest hid _ =>
    cases part with
    | nil => exact hid.elim
    | cons c cs => exact ⟨c, cs ++ '.' :: rest, rfl, hid.1⟩

/-- Every end of a name goes on with what a name may go on with. -/
theorem TokenName.extends_of_append {name : List Char} (h : TokenName name) :
    ∀ front back, name = front ++ back → back ≠ [] → Extends back := by
  induction h with
  | @identifier part hid =>
    rintro front back rfl hback
    cases back with
    | nil => exact absurd rfl hback
    | cons c cs => exact .inl (hid.part_of_mem c (by simp))
  | @dotted part rest hid hrest ih =>
    intro front back hs hback
    rcases List.append_eq_append_iff.1 hs with ⟨mid, rfl, hmid⟩ | ⟨mid, rfl, rfl⟩
    · cases mid with
      | nil =>
        rw [List.nil_append] at hmid
        obtain ⟨d, ds, rfl, hd⟩ := hrest.exists_start
        rw [← hmid]
        exact .inr ⟨rfl, d, ds, rfl, hd⟩
      | cons x mid =>
        simp only [List.cons_append, List.cons.injEq] at hmid
        exact ih mid back hmid.2 hback
    · cases mid with
      | nil =>
        obtain ⟨d, ds, rfl, hd⟩ := hrest.exists_start
        exact .inr ⟨rfl, d, ds, rfl, hd⟩
      | cons x mid => exact .inl (hid.part_of_mem x (by simp))

theorem Extends.mono {back text : List Char} (h : Extends back) (hp : back <+: text) : Extends text := by
  obtain ⟨rest, rfl⟩ := hp
  cases back with
  | nil => exact h.elim
  | cons c cs =>
    rcases h with h | ⟨rfl, d, ds, rfl, hd⟩
    · exact .inl h
    · exact .inr ⟨rfl, d, ds ++ rest, rfl, hd⟩

theorem not_extends_takeNameRest (cs : List Char) : ¬ Extends (takeNameRest cs).2 := by
  fun_induction takeNameRest cs with
  | case1 => exact id
  | case2 c rest hc name after hrest ih => rwa [hrest] at ih
  | case3 c rest hc =>
    rintro (h | ⟨-, d, ds, hd, hs⟩)
    · exact absurd h (by decide)
    · cases hd
      exact hc hs
  | case4 c rest _ hc name after hrest ih => rwa [hrest] at ih
  | case5 c rest hdot hc =>
    rintro (h | ⟨rfl, d, ds, rfl, -⟩)
    · exact hc h
    · exact hdot d ds rfl rfl

/-- **No text that follows what is taken makes a longer name of it.** -/
theorem not_tokenName_of_takeName? {cs name after ext : List Char} (h : takeName? cs = some (name, after))
    (hne : ext ≠ []) (hp : ext <+: after) : ¬ TokenName (name ++ ext) := by
  intro hn
  have hext : Extends after := (hn.extends_of_append name ext rfl hne).mono hp
  cases cs with
  | nil => simp [takeName?] at h
  | cons c rest =>
    simp only [takeName?, Option.ite_none_right_eq_some, Option.some.injEq, Prod.mk.injEq] at h
    obtain ⟨-, -, rfl⟩ := h
    exact not_extends_takeNameRest rest hext

theorem not_start_of_takeName?_eq_none {cs : List Char} (h : takeName? cs = none) :
    ∀ c rest, cs = c :: rest → ¬ isIdentifierStart c = true := by
  rintro c rest rfl hc
  simp [takeName?, hc] at h

end QueryRows
