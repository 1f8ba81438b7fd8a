import Mathlib
import QueryRows.Value
/-!
# ValueEquality — values that are the same as a third are the same

Equality of values is symmetric and transitive (`Value.same_symm`, `Value.same_trans`), and so is equality of lists of
keys.  It is not reflexive: not-a-number differs from itself.  Zeros of either sign are one float, and decimals of
different scales may be one number, so it is not equality of contents either.
-/
namespace QueryRows

open Float.Model (UnpackedFloat)

/-! ### Floats -/

theorem compare_sign_self (s : UnpackedFloat.Sign) : compare s s = .eq := by cases s <;> rfl

/-- Floats are equal when both are zeros, or when they are one float that is a number. -/
theorem unpacked_beq_iff (a b : UnpackedFloat) :
    a.beq b = true ↔ (∃ s t, a = .zero s ∧ b = .zero t) ∨ a = b ∧ a ≠ .notANumber := by
  rcases a with s | _ | s | ⟨s, m, e, hm⟩ <;> rcases b with t | _ | t | ⟨t, n, f, hn⟩ <;>
    (try cases s) <;> (try cases t) <;>
    simp [UnpackedFloat.beq, UnpackedFloat.compare, compare_sign_self, Ordering.then_eq_eq, and_comm]

theorem unpacked_beq_symm {a b : UnpackedFloat} (h : a.beq b = true) : b.beq a = true := by
  rw [unpacked_beq_iff] at h ⊢
  rcases h with ⟨s, t, ha, hb⟩ | ⟨rfl, ha⟩
  · exact .inl ⟨t, s, hb, ha⟩
  · exact .inr ⟨rfl, ha⟩

theorem unpacked_beq_trans {a b c : UnpackedFloat} (hab : a.beq b = true) (hbc : b.beq c = true) :
    a.beq c = true := by
  rw [unpacked_beq_iff] at hab hbc ⊢
  rcases hab with ⟨s, t, rfl, rfl⟩ | ⟨rfl, -⟩
  · rcases hbc with ⟨s', t', -, rfl⟩ | ⟨rfl, -⟩
    · exact .inl ⟨s, t', rfl, rfl⟩
    · exact .inl ⟨s, t, rfl, rfl⟩
  · exact hbc

instance floatPartialEquivBEq : PartialEquivBEq Float where
  symm h := unpacked_beq_symm h
  trans hab hbc := unpacked_beq_trans hab hbc

/-! ### Decimals -/

namespace Number.Decimal

/-- Decimals are the same when their fractions are, and their signs unless the fractions are zero. -/
theorem same_iff (a b : Decimal) :
    a.same b = true ↔
      a.mantissa * 10 ^ b.scale = b.mantissa * 10 ^ a.scale ∧ (a.negative = b.negative ∨ a.mantissa = 0) := by
  simp [same]

theorem mantissa_eq_zero_of_same {a b : Decimal} (h : a.mantissa * 10 ^ b.scale = b.mantissa * 10 ^ a.scale)
    (hz : a.mantissa = 0) : b.mantissa = 0 := by
  rw [hz, Nat.zero_mul] at h
  exact (Nat.mul_eq_zero.mp h.symm).resolve_right (Nat.ne_of_gt (Nat.pow_pos (by decide)))

theorem same_symm {a b : Decimal} (h : a.same b = true) : b.same a = true := by
  rw [same_iff] at h ⊢
  obtain ⟨hvalue, hsign⟩ := h
  exact ⟨hvalue.symm, hsign.imp Eq.symm (mantissa_eq_zero_of_same hvalue)⟩

theorem same_trans {a b c : Decimal} (hab : a.same b = true) (hbc : b.same c = true) : a.same c = true := by
  rw [same_iff] at hab hbc ⊢
  obtain ⟨hab, hsab⟩ := hab
  obtain ⟨hbc, hsbc⟩ := hbc
  constructor
  · -- both sides are compared after multiplying with the power in the middle
    apply Nat.eq_of_mul_eq_mul_right (Nat.pow_pos (by decide : 0 < 10) : 0 < 10 ^ b.scale)
    calc
      a.mantissa * 10 ^ c.scale * 10 ^ b.scale = a.mantissa * 10 ^ b.scale * 10 ^ c.scale := Nat.mul_right_comm ..
      _ = b.mantissa * 10 ^ c.scale * 10 ^ a.scale := by rw [hab, Nat.mul_right_comm]
      _ = c.mantissa * 10 ^ a.scale * 10 ^ b.scale := by rw [hbc, Nat.mul_right_comm]
  · rcases hsab with hsab | hz
    · rcases hsbc with hsbc | hz
      · exact .inl (hsab.trans hsbc)
      · exact .inr (mantissa_eq_zero_of_same hab.symm hz)
    · exact .inr hz

end Number.Decimal

/-! ### Values -/

namespace Value

theorem same_symm {a b : Value} (h : a.same b = true) : b.same a = true := by
  cases a <;> cases b <;> simp only [same, Bool.false_eq_true] at h ⊢
  case float.float => exact PartialEquivBEq.symm h
  case decimal.decimal => exact Number.Decimal.same_symm h
  all_goals
    rw [beq_iff_eq] at h ⊢
    exact h.symm

theorem same_trans {a b c : Value} (hab : a.same b = true) (hbc : b.same c = true) : a.same c = true := by
  cases a <;> cases b <;> simp only [same, Bool.false_eq_true] at hab <;> cases c <;>
    simp only [same, Bool.false_eq_true] at hbc ⊢
  case float.float.float => exact PartialEquivBEq.trans hab hbc
  case decimal.decimal.decimal => exact Number.Decimal.same_trans hab hbc
  all_goals
    rw [beq_iff_eq] at hab hbc ⊢
    exact hab.trans hbc

theorem sameAll_symm {as bs : List Value} (h : sameAll as bs = true) : sameAll bs as = true := by
  induction as generalizing bs with
  | nil =>
    cases bs with
    | nil => rfl
    | cons b bs => simp [sameAll] at h
  | cons a as ih =>
    cases bs with
    | nil => simp [sameAll] at h
    | cons b bs =>
      rw [sameAll, Bool.and_eq_true] at h ⊢
      exact ⟨same_symm h.1, ih h.2⟩

theorem sameAll_trans {as bs cs : List Value} (hab : sameAll as bs = true) (hbc : sameAll bs cs = true) :
    sameAll as cs = true := by
  induction as generalizing bs cs with
  | nil =>
    cases bs with
    | nil => exact hbc
    | cons b bs => simp [sameAll] at hab
  | cons a as ih =>
    cases bs with
    | nil => simp [sameAll] at hab
    | cons b bs =>
      cases cs with
      | nil => simp [sameAll] at hbc
      | cons c cs =>
        rw [sameAll, Bool.and_eq_true] at hab hbc ⊢
        exact ⟨same_trans hab.1 hbc.1, ih hab.2 hbc.2⟩

/-- **Lists that are the same are the same as others alike**. -/
theorem sameAll_congr {as bs : List Value} (h : sameAll as bs = true) (cs : List Value) :
    sameAll as cs = sameAll bs cs :=
  Bool.eq_iff_iff.mpr ⟨fun h' => sameAll_trans (sameAll_symm h) h', fun h' => sameAll_trans h h'⟩

end Value

end QueryRows
