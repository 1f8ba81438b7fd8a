import Mathlib.Data.Set.Basic
import Mathlib.Order.Bounds.Defs
import QueryRows.Proofs.WholeNumbers
/-!
# NamedConstants — texts that name the constants of an enumeration

A text is looked up among the display forms of an enumeration first, then among its names, and is read as an ordinal
last (`EnumType.Designates`).  Where no form of one constant is a form of another (`EnumType.FormsApart`), no tier hides
a constant from another: each is found by either of its forms in any case, and by its ordinal in every text that is no
form itself (`EnumType.gives_by_tiers`).
-/
namespace QueryRows

open Number

/-- The texts that name a constant. -/
def EnumConstant.forms (c : EnumConstant) : List String := [c.display, c.name]

namespace EnumType

variable {e : EnumType} {text : String} {i j : Nat}

/-- The ordinals of the constants whose form a text is, but for the case of ASCII letters. -/
def ordinalsOf (e : EnumType) (form : EnumConstant → String) (text : String) : Set Nat :=
  {i | ∃ c, e.constants[i]? = some c ∧ Text.sameIgnoringAsciiCase (form c) text = true}

/-- **The ordinal that a text designates**: the least one it is the display form of; where there is none, the least one
it is the name of; and where there is none of either, the one it writes, if there is such a constant. -/
inductive Designates (e : EnumType) (text : String) : Nat → Prop
  | display {i : Nat} : IsLeast (e.ordinalsOf (·.display) text) i → Designates e text i
  | name {i : Nat} : e.ordinalsOf (·.display) text = ∅ → IsLeast (e.ordinalsOf (·.name) text) i → Designates e text i
  | ordinal {i : Nat} : e.ordinalsOf (·.display) text = ∅ → e.ordinalsOf (·.name) text = ∅ →
      WritesNatural (Text.trim text.toList) i → i < e.constants.length → Designates e text i

/-- A text is a form of some constant. -/
def HasForm (e : EnumType) (text : String) : Prop :=
  ∃ c ∈ e.constants, ∃ form ∈ c.forms, Text.sameIgnoringAsciiCase form text = true

/-- **No form of a constant is a form of another one**, whatever the case of its ASCII letters. -/
def FormsApart (e : EnumType) : Prop :=
  e.constants.Pairwise fun c d => ∀ a ∈ c.forms, ∀ b ∈ d.forms, Text.sameIgnoringAsciiCase a b = false

instance (e : EnumType) (text : String) : Decidable (e.HasForm text) :=
  inferInstanceAs (Decidable (∃ c ∈ e.constants, ∃ form ∈ c.forms, _))

instance (e : EnumType) : Decidable e.FormsApart := inferInstanceAs (Decidable (List.Pairwise _ _))

/-- A text is resolved to the constant with an ordinal, and converted to it. -/
def Gives (e : EnumType) (text : String) (i : Nat) : Prop :=
  ∃ v, e.value? i = some v ∧ e.resolve? text = some v ∧
    coerce (.text text) (.enumeration e) = .ok (.enumeration v)

/-! ### The tiers -/

theorem findIdx?_eq_some_iff_isLeast {form : EnumConstant → String} :
    (e.constants.findIdx? fun c => Text.sameIgnoringAsciiCase (form c) text) = some i ↔
      IsLeast (e.ordinalsOf form text) i := by
  rw [List.findIdx?_eq_some_iff_getElem]
  constructor
  · rintro ⟨hi, hsame, hbefore⟩
    refine ⟨⟨_, List.getElem?_eq_getElem hi, hsame⟩, fun j hj => ?_⟩
    obtain ⟨c, hget, hc⟩ := hj
    obtain ⟨hj, rfl⟩ := List.getElem?_eq_some_iff.1 hget
    by_contra hlt
    exact hbefore j (by omega) hc
  · rintro ⟨⟨c, hget, hc⟩, hleast⟩
    obtain ⟨hi, rfl⟩ := List.getElem?_eq_some_iff.1 hget
    refine ⟨hi, hc, fun j hj hsame => ?_⟩
    have hle : i ≤ j := hleast ⟨_, List.getElem?_eq_getElem (by omega), hsame⟩
    omega

theorem findIdx?_eq_none_iff_ordinalsOf {form : EnumConstant → String} :
    (e.constants.findIdx? fun c => Text.sameIgnoringAsciiCase (form c) text) = none ↔ e.ordinalsOf form text = ∅ := by
  rw [List.findIdx?_eq_none_iff, Set.eq_empty_iff_forall_notMem]
  constructor
  · rintro h i ⟨c, hget, hc⟩
    exact absurd hc (by simp [h c (List.mem_of_getElem? hget)])
  · intro h c hc
    obtain ⟨i, hget⟩ := List.getElem?_of_mem hc
    by_contra hsame
    exact h i ⟨c, hget, by simpa using hsame⟩

/-- **The ordinal found for a text is the one it designates**, where every ordinal is a machine word. -/
theorem ordinal?_eq_some_iff (hwords : e.constants.length ≤ 2 ^ 64) :
    e.ordinal? text = some i ↔ e.Designates text i := by
  unfold ordinal?
  simp only [Option.or_eq_some_iff, Option.or_eq_none_iff, Option.filter_eq_some_iff, findIdx?_eq_some_iff_isLeast,
    findIdx?_eq_none_iff_ordinalsOf, readNatural?_eq_some_iff, decide_eq_true_eq]
  constructor
  · rintro ((hdisplay | ⟨hnone, hname⟩) | ⟨⟨hnone, hnone'⟩, ⟨hwrites, -⟩, hlt⟩)
    · exact .display hdisplay
    · exact .name hnone hname
    · exact .ordinal hnone hnone' hwrites hlt
  · intro h
    cases h with
    | display hdisplay => exact .inl (.inl hdisplay)
    | name hnone hname => exact .inl (.inr ⟨hnone, hname⟩)
    | ordinal hnone hnone' hwrites hlt =>
      have hle : i ≤ maxWord := by unfold maxWord; omega
      exact .inr ⟨⟨hnone, hnone'⟩, ⟨hwrites, hle⟩, hlt⟩

theorem Designates.lt_length (h : e.Designates text i) : i < e.constants.length := by
  cases h with
  | display hleast | name _ hleast =>
    obtain ⟨⟨c, hget, -⟩, -⟩ := hleast
    exact (List.getElem?_eq_some_iff.1 hget).1
  | ordinal _ _ _ hlt => exact hlt

theorem exists_value?_of_lt (h : i < e.constants.length) : ∃ v, e.value? i = some v :=
  ⟨_, by rw [value?, List.getElem?_eq_getElem h]; rfl⟩

theorem coerce_enumeration {v : Value} (hv : Family.of v = .text ∨ Family.of v = .integer) :
    coerce v (.enumeration e) = .ok ((e.resolve? v.display).elim .null .enumeration) := by
  have hselect : Transform.select (Family.of v) (.enumeration e) = .enumeration e := by
    rcases hv with h | h <;> rw [h] <;> rfl
  have hnull : v.isNull = false := by cases v <;> simp_all [Family.of, Value.isNull]
  rw [coerce_eq_apply hselect, Transform.apply, hnull, if_neg Bool.false_ne_true]
  cases e.resolve? v.display <;> rfl

theorem coerce_enumeration_of_resolve? {v : Value} {c : EnumValue} (hv : Family.of v = .text ∨ Family.of v = .integer)
    (h : e.resolve? v.display = some c) : coerce v (.enumeration e) = .ok (.enumeration c) := by
  rw [coerce_enumeration hv, h]
  rfl

theorem Designates.gives (hwords : e.constants.length ≤ 2 ^ 64) (h : e.Designates text i) : e.Gives text i := by
  obtain ⟨v, hv⟩ := exists_value?_of_lt h.lt_length
  have hresolve : e.resolve? text = some v := by rw [resolve?, (ordinal?_eq_some_iff hwords).2 h, Option.bind_some, hv]
  exact ⟨v, hv, hresolve, coerce_enumeration_of_resolve? (.inl rfl) hresolve⟩

/-! ### Finding every constant -/

theorem FormsApart.eq_of_same (h : e.FormsApart) {c d : EnumConstant} {a b : String} (hi : e.constants[i]? = some c)
    (hj : e.constants[j]? = some d) (ha : a ∈ c.forms) (hb : b ∈ d.forms)
    (hat : Text.sameIgnoringAsciiCase a text = true) (hbt : Text.sameIgnoringAsciiCase b text = true) : i = j := by
  obtain ⟨hilt, rfl⟩ := List.getElem?_eq_some_iff.1 hi
  obtain ⟨hjlt, rfl⟩ := List.getElem?_eq_some_iff.1 hj
  have hab : Text.sameIgnoringAsciiCase a b = true :=
    Text.sameIgnoringAsciiCase_trans hat (Text.sameIgnoringAsciiCase_comm b text ▸ hbt)
  have hpairs := List.pairwise_iff_getElem.1 h
  rcases Nat.lt_trichotomy i j with hlt | heq | hlt
  · have hapart := hpairs i j hilt hjlt hlt a ha b hb
    rw [hab] at hapart
    cases hapart
  · exact heq
  · have hapart := hpairs j i hjlt hilt hlt b hb a ha
    rw [Text.sameIgnoringAsciiCase_comm, hab] at hapart
    cases hapart

/-- **A constant is designated by each of its forms**, in any case. -/
theorem FormsApart.designates (h : e.FormsApart) {c : EnumConstant} {form : String} (hi : e.constants[i]? = some c)
    (hform : form ∈ c.forms) (hsame : Text.sameIgnoringAsciiCase form text = true) : e.Designates text i := by
  -- whatever else the text is a form of is the constant itself
  have hsole : ∀ (f : EnumConstant → String), (∀ d : EnumConstant, f d ∈ d.forms) →
      ∀ k ∈ e.ordinalsOf f text, i = k := by
    rintro f hf k ⟨d, hk, hd⟩
    exact h.eq_of_same hi hk hform (hf d) hsame hd
  have hdisplay := hsole (·.display) fun d => by simp [EnumConstant.forms]
  have hname := hsole (·.name) fun d => by simp [EnumConstant.forms]
  by_cases hnone : e.ordinalsOf (·.display) text = ∅
  · have hmem : i ∈ e.ordinalsOf (·.name) text := by
      simp only [EnumConstant.forms, List.mem_cons, List.not_mem_nil, or_false] at hform
      rcases hform with rfl | rfl
      · have hmem : i ∈ e.ordinalsOf (·.display) text := ⟨c, hi, hsame⟩
        rw [hnone] at hmem
        exact absurd hmem (Set.notMem_empty i)
      · exact ⟨c, hi, hsame⟩
    exact .name hnone ⟨hmem, fun k hk => Nat.le_of_eq (hname k hk)⟩
  · obtain ⟨j, hj⟩ := Set.nonempty_iff_ne_empty.2 hnone
    obtain rfl := hdisplay j hj
    exact .display ⟨hj, fun k hk => Nat.le_of_eq (hdisplay k hk)⟩

theorem ordinalsOf_eq_empty_of_not_hasForm (h : ¬ e.HasForm text) {form : EnumConstant → String}
    (hform : ∀ c : EnumConstant, form c ∈ c.forms) : e.ordinalsOf form text = ∅ := by
  rw [Set.eq_empty_iff_forall_notMem]
  rintro i ⟨c, hget, hsame⟩
  exact h ⟨c, List.mem_of_getElem? hget, form c, hform c, hsame⟩

theorem designates_of_writes (h : ¬ e.HasForm text) (hwrites : WritesNatural (Text.trim text.toList) i)
    (hi : i < e.constants.length) : e.Designates text i :=
  .ordinal (ordinalsOf_eq_empty_of_not_hasForm h fun c => by simp [EnumConstant.forms])
    (ordinalsOf_eq_empty_of_not_hasForm h fun c => by simp [EnumConstant.forms]) hwrites hi

theorem writesNatural_integerText (n : Nat) : WritesNatural (Text.trim (integerText n).toList) n := by
  rw [trim_integerText, integerDigits, if_neg (by omega), Int.natAbs_natCast]
  exact writesNatural_digits n

/-- **Texts are resolved tier by tier.**  In an enumeration whose ordinals are machine words, a text gives the constant
whose ordinal it designates, and null when it designates none.  Where no form of one constant is a form of another, every
constant is given by each of its forms in any case, by every text that writes its ordinal and is no form, and by every
whole number that is its ordinal unless the number's text is a form. -/
theorem gives_by_tiers (hwords : e.constants.length ≤ 2 ^ 64) :
    (∀ text i, e.Designates text i → e.Gives text i) ∧
    (∀ text, (∀ i, ¬ e.Designates text i) →
      e.resolve? text = none ∧ coerce (.text text) (.enumeration e) = .ok .null) ∧
    (e.FormsApart → ∀ i c, e.constants[i]? = some c →
      (∀ form ∈ c.forms, ∀ text, Text.sameIgnoringAsciiCase form text = true → e.Gives text i) ∧
      (∀ text, WritesNatural (Text.trim text.toList) i → ¬ e.HasForm text → e.Gives text i) ∧
      ∀ v : Value, v.whole? = some (i : Int) → ¬ e.HasForm (integerText i) →
        ∃ w, e.value? i = some w ∧ coerce v (.enumeration e) = .ok (.enumeration w)) := by
  refine ⟨fun text i h => h.gives hwords, fun text h => ?_, fun hapart i c hi => ⟨?_, ?_, ?_⟩⟩
  · have hnone : e.ordinal? text = none :=
      Option.eq_none_iff_forall_ne_some.2 fun i hi => h i ((ordinal?_eq_some_iff hwords).1 hi)
    have hresolve : e.resolve? text = none := by rw [resolve?, hnone, Option.bind_none]
    refine ⟨hresolve, ?_⟩
    rw [coerce_enumeration (.inl rfl), Value.display, hresolve]
    rfl
  · intro form hform text hsame
    exact (hapart.designates hi hform hsame).gives hwords
  · intro text hwrites hform
    have hlt := (List.getElem?_eq_some_iff.1 hi).1
    exact (designates_of_writes hform hwrites hlt).gives hwords
  · intro v hv hform
    have hlt := (List.getElem?_eq_some_iff.1 hi).1
    obtain ⟨w, hw, hresolve, -⟩ := (designates_of_writes hform (writesNatural_integerText i) hlt).gives hwords
    rw [← display_of_whole? hv] at hresolve
    exact ⟨w, hw, coerce_enumeration_of_resolve? (.inr (family_of_whole? hv)) hresolve⟩

/-- A display form that looks like an ordinal comes before it, and blanks around it take its form away; a name in
another case, a whole number and an ordinal past the last constant. -/
theorem gives_by_tiers_levels : ∃ e : EnumType,
    e = ⟨"Level", [⟨"LOW", "2"⟩, ⟨"HIGH", "Top"⟩, ⟨"MAX", "Most"⟩]⟩ ∧ e.constants.length ≤ 2 ^ 64 ∧ e.FormsApart ∧
      e.Gives "2" 0 ∧ e.Gives " +02" 2 ∧ e.Gives "hIGH" 1 ∧ ¬ e.HasForm (integerText 1) ∧
      (∃ w, e.value? 1 = some w ∧ coerce (.long 1) (.enumeration e) = .ok (.enumeration w)) ∧
      coerce (.text "3") (.enumeration e) = .ok .null := by
  obtain ⟨e, he⟩ : ∃ e : EnumType, e = ⟨"Level", [⟨"LOW", "2"⟩, ⟨"HIGH", "Top"⟩, ⟨"MAX", "Most"⟩]⟩ := ⟨_, rfl⟩
  have hwords : e.constants.length ≤ 2 ^ 64 := by rw [he]; decide
  have hapart : e.FormsApart := by rw [he]; decide +kernel
  obtain ⟨-, hnone, hfound⟩ := gives_by_tiers hwords
  have hlow := hfound hapart 0 ⟨"LOW", "2"⟩ (by rw [he]; rfl)
  have hhigh := hfound hapart 1 ⟨"HIGH", "Top"⟩ (by rw [he]; rfl)
  have hmax := hfound hapart 2 ⟨"MAX", "Most"⟩ (by rw [he]; rfl)
  have hone : ¬ e.HasForm (integerText 1) := by rw [he]; decide +kernel
  have hdigits : ∀ c ∈ ['0', '2'], c.isDigit = true := List.all_eq_true.1 (by decide)
  have hwrites : WritesNatural (Text.trim " +02".toList) 2 := .plus (by decide) hdigits
  refine ⟨e, he, hwords, hapart, hlow.1 "2" (by decide) "2" (by decide),
    hmax.2.1 " +02" hwrites (by rw [he]; decide +kernel), hhigh.1 "HIGH" (by decide) "hIGH" (by decide), hone,
    hhigh.2.2 (.long 1) rfl hone, (hnone "3" fun i hi => ?_).2⟩
  have hthree : e.ordinal? "3" = none := by rw [he]; decide +kernel
  rw [(ordinal?_eq_some_iff hwords).2 hi] at hthree
  cases hthree

end EnumType

end QueryRows
