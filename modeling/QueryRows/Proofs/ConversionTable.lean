import QueryRows.Coercion
import QueryRows.FieldType
/-!
# ConversionTable — what a conversion comes to

`Family.targets` lists the types that the values of each family are converted to.  Inside this table a conversion
fails, naming the value and the kind, or gives a value that the kind holds (`converted_coerce`); outside of it every
value stays as it is (`coerce_of_not_converts`).  A value that a kind holds is converted to itself
(`coerce_of_holds`), so converting twice is converting once (`coerce_by_table`).
-/
namespace QueryRows

open Number

/-- The stored type that a kind names; an object and an opaque value have none. -/
def Kind.scalar? : Kind → Option ScalarType
  | .text => some .text
  | .int => some .int
  | .long => some .long
  | .short => some .short
  | .byte => some .byte
  | .float => some .float
  | .decimal => some .decimal
  | .boolean => some .boolean
  | .date => some .date
  | .datetime => some .datetime
  | .bytes => some .bytes
  | .enumeration _ => some .enumeration
  | .object _ => none
  | .any => none

/-- The stored type that a value is of; null is of none. -/
def Value.scalar? : Value → Option ScalarType
  | .null => none
  | .text _ => some .text
  | .int _ => some .int
  | .long _ => some .long
  | .short _ => some .short
  | .byte _ => some .byte
  | .float _ => some .float
  | .decimal _ => some .decimal
  | .boolean _ => some .boolean
  | .date _ => some .date
  | .datetime _ => some .datetime
  | .bytes _ => some .bytes
  | .enumeration _ => some .enumeration

/-- **The table of conversions**: the types that the values of a family are converted to. -/
def Family.targets : Family → List ScalarType
  | .text =>
    [.text, .int, .long, .short, .byte, .decimal, .float, .boolean, .date, .datetime, .bytes, .enumeration]
  | .integer => [.int, .long, .short, .byte, .decimal, .float, .boolean, .text, .enumeration]
  | .float => [.float, .decimal, .text]
  | .boolean => [.boolean, .int, .text]
  | .other => []

/-- A family and a kind are in the table. -/
def Family.converts (f : Family) (k : Kind) : Bool := k.scalar?.any f.targets.contains

/-- **A value that a kind holds**: null or a constant of the very enumeration, and for every other kind a value of its
type, which a field of that type takes as it is. -/
def Kind.Holds : Kind → Value → Prop
  | .enumeration e, w => w = .null ∨ ∃ ordinal c, e.value? ordinal = some c ∧ w = .enumeration c
  | k, w => ∃ t, k.scalar? = some t ∧ w.scalar? = some t ∧ t.take w = .ok w

/-- **The range of a whole kind.** -/
def WholeKind.Holds (w : WholeKind) (n : Int) : Prop := -(w.below : Int) ≤ n ∧ n ≤ w.above

instance (w : WholeKind) (n : Int) : Decidable (w.Holds n) := inferInstanceAs (Decidable (_ ∧ _))

/-- **What a conversion inside the table comes to**: a failure that names the value and the kind, or a value that the
kind holds. -/
inductive Converted (v : Value) (k : Kind) : Except CoercionError Value → Prop
  | failed (reason : String) : Converted v k (.error ⟨v.display, k, reason⟩)
  | held {w : Value} : k.Holds w → Converted v k (.ok w)

/-! ### Whole numbers and their bounds -/

theorem int32_bounds (n : Int32) : -2 ^ 31 ≤ n.toInt ∧ n.toInt ≤ 2 ^ 31 - 1 := by
  have := n.le_toInt
  have := n.toInt_lt
  omega

theorem int64_bounds (n : Int64) : -2 ^ 63 ≤ n.toInt ∧ n.toInt ≤ 2 ^ 63 - 1 := by
  have := n.le_toInt
  have := n.toInt_lt
  omega

theorem int16_bounds (n : Int16) : -2 ^ 15 ≤ n.toInt ∧ n.toInt ≤ 2 ^ 15 - 1 := by
  have := n.le_toInt
  have := n.toInt_lt
  omega

theorem int8_bounds (n : Int8) : -2 ^ 7 ≤ n.toInt ∧ n.toInt ≤ 2 ^ 7 - 1 := by
  have := n.le_toInt
  have := n.toInt_lt
  omega

theorem ScalarType.narrow_eq_ok {t : ScalarType} {low high n : Int} {make : Int → Value} {v : Value}
    (hw : v.whole? = some n) (hb : low ≤ n ∧ n ≤ high) : t.narrow low high make v = .ok (make n) := by
  rw [narrow, hw]
  exact if_pos hb

/-- **A field takes a value of its own type as it is.** -/
theorem take_of_scalar? {v : Value} {t : ScalarType} (h : v.scalar? = some t) : t.take v = .ok v := by
  cases v with
  | null => cases h
  | int n =>
    cases h
    rw [ScalarType.take, ScalarType.narrow_eq_ok rfl (int32_bounds n), Int32.ofInt_toInt]
  | long n =>
    cases h
    rw [ScalarType.take, ScalarType.narrow_eq_ok rfl (int64_bounds n), Int64.ofInt_toInt]
  | short n =>
    cases h
    rw [ScalarType.take, ScalarType.narrow_eq_ok rfl (int16_bounds n), Int16.ofInt_toInt]
  | byte n =>
    cases h
    rw [ScalarType.take, ScalarType.narrow_eq_ok rfl (int8_bounds n), Int8.ofInt_toInt]
  | _ =>
    cases h
    rfl

theorem Kind.holds_of_scalar? {k : Kind} {w : Value} {t : ScalarType} (hk : k.scalar? = some t)
    (hw : w.scalar? = some t) (ht : t ≠ .enumeration) : k.Holds w := by
  cases k with
  | enumeration e =>
    cases hk
    exact absurd rfl ht
  | _ => exact ⟨t, hk, hw, take_of_scalar? hw⟩

/-! ### Outside the table -/

theorem coerce_eq_apply {v : Value} {k : Kind} {t : Transform} (h : Transform.select (Family.of v) k = t) :
    coerce v k = t.apply v := by
  rw [← h]
  rfl

theorem apply_identity (v : Value) : Transform.identity.apply v = .ok v := by cases v <;> rfl

theorem apply_parseText (s : String) (k : Kind) : (Transform.parseText k).apply (.text s) = parseText s k := rfl

theorem coerce_text_of_select {k : Kind} (h : Transform.select .text k = .parseText k) (s : String) :
    coerce (.text s) k = parseText s k :=
  (coerce_eq_apply (v := .text s) h).trans (apply_parseText s k)

/-- **Outside the table a value stays as it is.** -/
theorem coerce_of_not_converts {v : Value} {k : Kind} (h : (Family.of v).converts k = false) : coerce v k = .ok v := by
  have hi : Transform.select (Family.of v) k = .identity := by
    generalize Family.of v = f at h
    cases f <;> cases k <;> first | rfl | cases h
  rw [coerce_eq_apply hi, apply_identity]

/-! ### Inside the table -/

theorem display_of_whole? {v : Value} {n : Int} (h : v.whole? = some n) : v.display = integerText n := by
  cases v <;> cases h <;> rfl

/-- Text is read as a kind. -/
theorem converted_parseText (s : String) {k : Kind} (h : Transform.select .text k = .parseText k) :
    Converted (.text s) k (parseText s k) := by
  cases k with
  | int | long | short | byte =>
    simp only [parseText, WholeKind.of?]
    split
    · exact .held (Kind.holds_of_scalar? rfl rfl (by decide))
    · exact .failed _
  | float | decimal | date | datetime =>
    simp only [parseText]
    split
    · exact .held (Kind.holds_of_scalar? rfl rfl (by decide))
    · exact .failed _
  | boolean | bytes => exact .held (Kind.holds_of_scalar? rfl rfl (by decide))
  | _ => cases h

/-- A whole number is brought into a numeric kind, where it may not fit. -/
theorem converted_integerTo {v : Value} {n : Int} (hv : v.whole? = some n) {k : Kind}
    (h : Transform.select .integer k = .integer k) : Converted v k (integerTo n k) := by
  cases k with
  | int | long | short | byte =>
    simp only [integerTo, WholeKind.of?]
    split
    · exact .held (Kind.holds_of_scalar? rfl rfl (by decide))
    · rw [← display_of_whole? hv]
      exact .failed _
  | float | decimal => exact .held (Kind.holds_of_scalar? rfl rfl (by decide))
  | _ => cases h

/-- A fractional number is brought into the other fractional kind. -/
theorem converted_floatTo {v : Value} (hv : Family.of v = .float) {k : Kind}
    (h : Transform.select .float k = .float k) : Converted v k (floatTo v k) := by
  cases v with
  | float x =>
    cases k with
    | float => exact .held (Kind.holds_of_scalar? rfl rfl (by decide))
    | decimal =>
      simp only [floatTo]
      split
      · exact .held (Kind.holds_of_scalar? rfl rfl (by decide))
      · exact .failed _
    | _ => cases h
  | decimal d =>
    cases k with
    | float | decimal => exact .held (Kind.holds_of_scalar? rfl rfl (by decide))
    | _ => cases h
  | _ => cases hv

/-- A value names a constant by its display, or none. -/
theorem converted_apply_enumeration {v : Value} (hv : v.isNull = false) (e : EnumType) :
    Converted v (.enumeration e) ((Transform.enumeration e).apply v) := by
  rw [Transform.apply, hv, if_neg Bool.false_ne_true]
  split
  · rename_i c hc
    obtain ⟨ordinal, -, hvalue⟩ := Option.bind_eq_some_iff.1 hc
    exact .held (.inr ⟨ordinal, c, hvalue, rfl⟩)
  · exact .held (.inl rfl)

theorem converted_apply_stringify {v : Value} (hv : v.isNull = false) : Converted v .text (Transform.stringify.apply v) := by
  rw [Transform.apply, hv, if_neg Bool.false_ne_true]
  exact .held (Kind.holds_of_scalar? rfl rfl (by decide))

theorem converted_apply_identity {v : Value} {k : Kind} {t : ScalarType} (hk : k.scalar? = some t)
    (hv : v.scalar? = some t) (ht : t ≠ .enumeration) : Converted v k (Transform.identity.apply v) := by
  rw [apply_identity]
  exact .held (Kind.holds_of_scalar? hk hv ht)

theorem isNull_of_whole? {v : Value} {n : Int} (h : v.whole? = some n) : v.isNull = false := by
  cases v <;> cases h <;> rfl

theorem family_of_whole? {v : Value} {n : Int} (h : v.whole? = some n) : Family.of v = .integer := by
  cases v <;> cases h <;> rfl

theorem converted_text {s : String} {k : Kind} (h : Family.text.converts k = true) :
    Converted (.text s) k ((Transform.select .text k).apply (.text s)) := by
  cases k with
  | text => exact converted_apply_identity rfl rfl (by decide)
  | enumeration e => exact converted_apply_enumeration rfl e
  | object c => cases h
  | any => cases h
  | _ =>
    simp only [Transform.select, apply_parseText]
    exact converted_parseText s rfl

theorem converted_integer {v : Value} {n : Int} (hv : v.whole? = some n) {k : Kind}
    (h : Family.integer.converts k = true) : Converted v k ((Transform.select .integer k).apply v) := by
  have hnull := isNull_of_whole? hv
  cases k with
  | int | long | short | byte | float | decimal =>
    rw [Transform.select, Transform.apply, hnull, if_neg Bool.false_ne_true]
    simp only [hv]
    exact converted_integerTo hv rfl
  | boolean =>
    rw [Transform.select, Transform.apply, hnull, if_neg Bool.false_ne_true]
    simp only [hv]
    exact .held (Kind.holds_of_scalar? rfl rfl (by decide))
  | text => exact converted_apply_stringify hnull
  | enumeration e => exact converted_apply_enumeration hnull e
  | _ => cases h

theorem converted_float {v : Value} (hv : Family.of v = .float) {k : Kind} (h : Family.float.converts k = true) :
    Converted v k ((Transform.select .float k).apply v) := by
  have hnull : v.isNull = false := by cases v <;> first | rfl | cases hv
  cases k with
  | float | decimal =>
    rw [Transform.select, Transform.apply, hnull, if_neg Bool.false_ne_true]
    exact converted_floatTo hv rfl
  | text => exact converted_apply_stringify hnull
  | _ => cases h

theorem converted_boolean {b : Bool} {k : Kind} (h : Family.boolean.converts k = true) :
    Converted (.boolean b) k ((Transform.select .boolean k).apply (.boolean b)) := by
  cases k with
  | boolean => exact converted_apply_identity rfl rfl (by decide)
  | int => exact .held (Kind.holds_of_scalar? rfl rfl (by decide))
  | text => exact converted_apply_stringify rfl
  | _ => cases h

/-- **Inside the table a conversion fails or gives what the kind holds.** -/
theorem converted_coerce {v : Value} {k : Kind} (h : (Family.of v).converts k = true) : Converted v k (coerce v k) := by
  rw [coerce_eq_apply rfl]
  cases v with
  | text s => exact converted_text h
  | int n | long n | short n | byte n => exact converted_integer rfl h
  | float x | decimal d => exact converted_float rfl h
  | boolean b => exact converted_boolean h
  | _ =>
    unfold Family.converts at h
    cases hk : k.scalar? <;> rw [hk] at h <;> cases h

/-! ### Converting again -/

/-- **A whole number becomes one of a whole kind** exactly when it is in the kind's range. -/
theorem coerce_whole_eq {v : Value} {n : Int} {k : Kind} {w : WholeKind} (hk : WholeKind.of? k = some w)
    (hv : v.whole? = some n) :
    coerce v k = if w.Holds n then .ok (w.make n) else .error ⟨integerText n, k, "out of range"⟩ := by
  have hselect : Transform.select (Family.of v) k = .integer k := by
    rw [family_of_whole? hv]
    cases k <;> cases hk <;> rfl
  rw [coerce_eq_apply hselect, Transform.apply, isNull_of_whole? hv, if_neg Bool.false_ne_true]
  simp only [hv]
  cases k <;> cases hk <;> rfl

/-- A whole number in a kind's range that is what the kind makes of it is converted to itself. -/
theorem coerce_whole_self {v : Value} {n : Int} {k : Kind} {w : WholeKind} (hv : v.whole? = some n)
    (hk : WholeKind.of? k = some w) (hb : w.Holds n) (hm : w.make n = v) :
    coerce v k = .ok v := by
  rw [coerce_whole_eq hk hv, if_pos hb, hm]

/-- A value of a kind's type is converted to itself. -/
theorem coerce_of_scalar? {k : Kind} {w : Value} {t : ScalarType} (hk : k.scalar? = some t) (hw : w.scalar? = some t) :
    coerce w k = .ok w := by
  cases w with
  | null => cases hw
  | int n =>
    cases hw
    cases k <;> cases hk
    exact coerce_whole_self rfl rfl (int32_bounds n) (congrArg Value.int (Int32.ofInt_toInt n))
  | long n =>
    cases hw
    cases k <;> cases hk
    exact coerce_whole_self rfl rfl (int64_bounds n) (congrArg Value.long (Int64.ofInt_toInt n))
  | short n =>
    cases hw
    cases k <;> cases hk
    exact coerce_whole_self rfl rfl (int16_bounds n) (congrArg Value.short (Int16.ofInt_toInt n))
  | byte n =>
    cases hw
    cases k <;> cases hk
    exact coerce_whole_self rfl rfl (int8_bounds n) (congrArg Value.byte (Int8.ofInt_toInt n))
  | _ =>
    cases hw
    cases k <;> cases hk
    rfl

/-- **A value that a kind holds is converted to itself.** -/
theorem coerce_of_holds {k : Kind} {w : Value} (h : k.Holds w) : coerce w k = .ok w := by
  cases k with
  | enumeration e =>
    rcases h with rfl | ⟨ordinal, c, -, rfl⟩
    · exact coerce_of_not_converts rfl
    · exact coerce_of_not_converts rfl
  | _ =>
    obtain ⟨t, hk, hw, -⟩ := h
    exact coerce_of_scalar? hk hw

/-- **Every conversion goes by the table.**  Null stays null; inside the table a conversion fails or gives a value that
the kind holds; outside of it the value stays as it is; and what a conversion gives is converted to itself. -/
theorem coerce_by_table (v : Value) (k : Kind) :
    (v = .null → coerce v k = .ok .null) ∧
      ((Family.of v).converts k = true → Converted v k (coerce v k)) ∧
      ((Family.of v).converts k = false → coerce v k = .ok v) ∧
      ∀ w, coerce v k = .ok w → coerce w k = .ok w := by
  refine ⟨?_, converted_coerce, coerce_of_not_converts, fun w hw => ?_⟩
  · rintro rfl
    rfl
  · cases hc : (Family.of v).converts k with
    | true =>
      have hconv := converted_coerce hc
      rw [hw] at hconv
      cases hconv with
      | held hholds => exact coerce_of_holds hholds
    | false =>
      rw [coerce_of_not_converts hc] at hw
      cases hw
      exact coerce_of_not_converts hc

end QueryRows
