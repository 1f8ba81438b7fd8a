import QueryRows.Number.Numeral
import QueryRows.Proofs.Results
import QueryRows.Proofs.Trimming
/-!
# DigitTexts — numbers written in decimal digits

A number in digits is no blank text and has a value whatever zeros come first (`digitsValue_padded`).  Read against a
bound, digits give their value exactly when it is within the bound (`readDigits_eq_ok_iff`), a signed text gives the
integer it writes exactly when that is between the bounds (`readInteger_eq_ok_iff`), and a text without a minus sign
likewise the natural number it writes (`readNatural?_eq_some_iff`).
-/
namespace QueryRows
namespace Number

/-! ### Digits -/

theorem isBlank_of_isDigit {c : Char} (h : c.isDigit = true) : Text.isBlank c = false := by
  obtain ⟨hlow, hhigh⟩ : 48 ≤ c.toNat ∧ c.toNat ≤ 57 := Char.isDigit_iff_toNat.1 h
  simp only [Text.isBlank, Bool.or_eq_false_iff, Bool.and_eq_false_iff, decide_eq_false_iff_not, beq_eq_false_iff_ne]
  omega

theorem digits_ne_nil (n : Nat) : digits n ≠ [] := Nat.toDigits_ne_nil

theorem le_ofDigitChars : ∀ (n : Nat) (cs : List Char), n ≤ Nat.ofDigitChars 10 cs n
  | n, [] => by rw [Nat.ofDigitChars_nil]
  | n, c :: cs => by
    rw [Nat.ofDigitChars_cons]
    exact Nat.le_trans (by omega) (le_ofDigitChars _ cs)

theorem isDigit_of_mem_padded {width n : Nat} {c : Char} (h : c ∈ padded width n) : c.isDigit = true := by
  rcases List.mem_append.1 h with h | h
  · rw [(List.mem_replicate.1 h).2]
    rfl
  · exact isDigit_of_mem_digits h

theorem padded_ne_nil (width n : Nat) : padded width n ≠ [] :=
  List.append_ne_nil_of_right_ne_nil _ (digits_ne_nil n)

theorem length_padded {width n : Nat} (hwidth : 0 < width) (h : n < 10 ^ width) : (padded width n).length = width := by
  have hdigits : (digits n).length ≤ width := (Nat.length_toDigits_le_iff (by decide) hwidth).2 h
  rw [padded, List.length_append, List.length_replicate, Nat.sub_add_cancel hdigits]

/-- **Zeros in front of a number do not change its value.** -/
theorem digitsValue_padded (width n : Nat) : digitsValue (padded width n) = n := by
  rw [digitsValue, padded, Nat.ofDigitChars_append, Nat.ofDigitChars_replicate_zero, Nat.mul_zero]
  exact digitsValue_digits n

/-! ### Reading digits against a bound -/

/-- **Digits are read within a bound exactly when their value is within it.** -/
theorem readDigits_eq_ok_iff {limit : Nat} {past : IntegerFault} {m : Nat} :
    ∀ {n : Nat} {cs : List Char}, n ≤ limit →
      (readDigits limit past n cs = .ok m ↔
        (∀ c ∈ cs, c.isDigit = true) ∧ Nat.ofDigitChars 10 cs n = m ∧ m ≤ limit)
  | n, [], hn => by
    simp only [readDigits, Except.ok.injEq, List.not_mem_nil, false_implies, implies_true, true_and,
      Nat.ofDigitChars_nil]
    exact ⟨fun h => ⟨h, h ▸ hn⟩, fun h => h.1⟩
  | n, c :: cs, hn => by
    rw [readDigits, Nat.ofDigitChars_cons, List.forall_mem_cons]
    by_cases hc : c.isDigit = true
    · rw [if_pos hc, show n * 10 + digitValue c = 10 * n + (c.toNat - '0'.toNat) by rw [digitValue, Nat.mul_comm]]
      by_cases hle : 10 * n + (c.toNat - '0'.toNat) ≤ limit
      · simp only [hle, if_true, readDigits_eq_ok_iff hle, hc, true_and]
      · -- the value only grows with the digits that follow
        have hgrows := le_ofDigitChars (10 * n + (c.toNat - '0'.toNat)) cs
        simp only [hle, if_false, reduceCtorEq, false_iff, not_and]
        omega
    · simp [hc]

theorem readSomeDigits_eq_ok_iff {limit m : Nat} {past : IntegerFault} {cs : List Char} :
    readSomeDigits limit past cs = .ok m ↔
      cs ≠ [] ∧ (∀ c ∈ cs, c.isDigit = true) ∧ digitsValue cs = m ∧ m ≤ limit := by
  cases cs with
  | nil => simp [readSomeDigits]
  | cons c cs =>
    have hread : readSomeDigits limit past (c :: cs) = readDigits limit past 0 (c :: cs) := rfl
    rw [hread, readDigits_eq_ok_iff (Nat.zero_le limit)]
    simp [digitsValue]

/-- **A text writes an integer**: an optional sign, then one or more decimal digits. -/
inductive Writes : List Char → Int → Prop
  | unsigned {ds : List Char} : ds ≠ [] → (∀ c ∈ ds, c.isDigit = true) → Writes ds (digitsValue ds)
  | plus {ds : List Char} : ds ≠ [] → (∀ c ∈ ds, c.isDigit = true) → Writes ('+' :: ds) (digitsValue ds)
  | minus {ds : List Char} : ds ≠ [] → (∀ c ∈ ds, c.isDigit = true) → Writes ('-' :: ds) (-(digitsValue ds : Int))

theorem writes_integerDigits (n : Int) : Writes (integerDigits n) n := by
  have hdigits : ∀ c ∈ digits n.natAbs, c.isDigit = true := fun c hc => isDigit_of_mem_digits hc
  unfold integerDigits
  split
  · rename_i hneg
    have h := Writes.minus (digits_ne_nil n.natAbs) hdigits
    rwa [digitsValue_digits, show -(n.natAbs : Int) = n by omega] at h
  · rename_i hnonneg
    have h := Writes.unsigned (digits_ne_nil n.natAbs) hdigits
    rwa [digitsValue_digits, show (n.natAbs : Int) = n by omega] at h

theorem not_isDigit_minus {cs : List Char} : ¬ ∀ c ∈ '-' :: cs, c.isDigit = true := fun h =>
  absurd (h '-' List.mem_cons_self) (by decide)

theorem not_isDigit_plus {cs : List Char} : ¬ ∀ c ∈ '+' :: cs, c.isDigit = true := fun h =>
  absurd (h '+' List.mem_cons_self) (by decide)

theorem writes_minus_iff {cs : List Char} {n : Int} :
    Writes ('-' :: cs) n ↔ cs ≠ [] ∧ (∀ c ∈ cs, c.isDigit = true) ∧ -(digitsValue cs : Int) = n := by
  constructor
  · intro h
    cases h with
    | unsigned _ hdigits => exact absurd hdigits not_isDigit_minus
    | minus hne hdigits => exact ⟨hne, hdigits, rfl⟩
  · rintro ⟨hne, hdigits, rfl⟩
    exact .minus hne hdigits

theorem writes_plus_iff {cs : List Char} {n : Int} :
    Writes ('+' :: cs) n ↔ cs ≠ [] ∧ (∀ c ∈ cs, c.isDigit = true) ∧ (digitsValue cs : Int) = n := by
  constructor
  · intro h
    cases h with
    | unsigned _ hdigits => exact absurd hdigits not_isDigit_plus
    | plus hne hdigits => exact ⟨hne, hdigits, rfl⟩
  · rintro ⟨hne, hdigits, rfl⟩
    exact .plus hne hdigits

theorem writes_unsigned_iff {cs : List Char} {n : Int} (hminus : ∀ ds, cs ≠ '-' :: ds) (hplus : ∀ ds, cs ≠ '+' :: ds) :
    Writes cs n ↔ cs ≠ [] ∧ (∀ c ∈ cs, c.isDigit = true) ∧ (digitsValue cs : Int) = n := by
  constructor
  · intro h
    cases h with
    | unsigned hne hdigits => exact ⟨hne, hdigits, rfl⟩
    | plus => exact absurd rfl (hplus _)
    | minus => exact absurd rfl (hminus _)
  · rintro ⟨hne, hdigits, rfl⟩
    exact .unsigned hne hdigits

theorem readSomeDigits_map_eq_ok_iff {below above : Nat} {cs : List Char} {n : Int} :
    (readSomeDigits above .tooLarge cs).map Int.ofNat = .ok n ↔
      (cs ≠ [] ∧ (∀ c ∈ cs, c.isDigit = true) ∧ (digitsValue cs : Int) = n) ∧ -(below : Int) ≤ n ∧ n ≤ above := by
  simp only [map_eq_ok_iff, readSomeDigits_eq_ok_iff, Int.ofNat_eq_natCast]
  constructor
  · rintro ⟨m, ⟨hne, hdigits, rfl, hle⟩, rfl⟩
    exact ⟨⟨hne, hdigits, rfl⟩, by omega, by omega⟩
  · rintro ⟨⟨hne, hdigits, rfl⟩, -, hhigh⟩
    exact ⟨_, ⟨hne, hdigits, rfl, by omega⟩, rfl⟩

/-- **An integer is read exactly when the text writes it and it is between the bounds.** -/
theorem readInteger_eq_ok_iff {below above : Nat} {cs : List Char} {n : Int} :
    readInteger below above cs = .ok n ↔ Writes cs n ∧ -(below : Int) ≤ n ∧ n ≤ above := by
  unfold readInteger
  split
  case h_1 =>
    simp only [reduceCtorEq, false_iff, not_and]
    intro h
    cases h with
    | unsigned hne => exact absurd rfl hne
  case h_2 =>
    simp only [map_eq_ok_iff, bind_eq_ok_iff, readSomeDigits_eq_ok_iff, writes_minus_iff]
    constructor
    · rintro ⟨_, ⟨m, ⟨hne, hdigits, rfl, hle⟩, ⟨⟩⟩, rfl⟩
      exact ⟨⟨hne, hdigits, rfl⟩, by omega, by omega⟩
    · rintro ⟨⟨hne, hdigits, rfl⟩, hlow, -⟩
      exact ⟨_, ⟨_, ⟨hne, hdigits, rfl, by omega⟩, rfl⟩, rfl⟩
  case h_3 => rw [readSomeDigits_map_eq_ok_iff, writes_plus_iff]
  case h_4 hminus hplus => rw [readSomeDigits_map_eq_ok_iff, writes_unsigned_iff hminus hplus]

/-! ### Natural numbers -/

/-- **A text writes a natural number**: an optional plus sign, then one or more decimal digits. -/
inductive WritesNatural : List Char → Nat → Prop
  | unsigned {ds : List Char} : ds ≠ [] → (∀ c ∈ ds, c.isDigit = true) → WritesNatural ds (digitsValue ds)
  | plus {ds : List Char} : ds ≠ [] → (∀ c ∈ ds, c.isDigit = true) → WritesNatural ('+' :: ds) (digitsValue ds)

theorem writesNatural_digits (n : Nat) : WritesNatural (digits n) n := by
  have h := WritesNatural.unsigned (digits_ne_nil n) fun c hc => isDigit_of_mem_digits hc
  rwa [digitsValue_digits] at h

/-- A natural number is read exactly when the text writes it and it is within the limit. -/
theorem readNatural?_eq_some_iff {limit n : Nat} {cs : List Char} :
    readNatural? limit cs = some n ↔ WritesNatural cs n ∧ n ≤ limit := by
  unfold readNatural?
  split
  case h_1 ds =>
    rw [toOption_eq_some_iff, readSomeDigits_eq_ok_iff]
    constructor
    · rintro ⟨hne, hdigits, rfl, hle⟩
      exact ⟨.plus hne hdigits, hle⟩
    · rintro ⟨hwrites, hle⟩
      cases hwrites with
      | unsigned _ hdigits => exact absurd hdigits not_isDigit_plus
      | plus hne hdigits => exact ⟨hne, hdigits, rfl, hle⟩
  case h_2 hplus =>
    rw [toOption_eq_some_iff, readSomeDigits_eq_ok_iff]
    constructor
    · rintro ⟨hne, hdigits, rfl, hle⟩
      exact ⟨.unsigned hne hdigits, hle⟩
    · rintro ⟨hwrites, hle⟩
      cases hwrites with
      | unsigned hne hdigits => exact ⟨hne, hdigits, rfl, hle⟩
      | plus => exact absurd rfl (hplus _)

end Number
end QueryRows
