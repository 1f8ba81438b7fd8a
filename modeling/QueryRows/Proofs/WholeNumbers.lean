import QueryRows.Proofs.ConversionTable
import QueryRows.Proofs.DigitTexts
/-!
# WholeNumbers — whole numbers between text and the whole kinds

Text becomes a whole number of a kind exactly when it writes an integer in the kind's range (`coerce_text_eq_ok_iff`),
and one whole kind becomes another exactly when the number is in the other's range (`coerce_whole_eq`).  So nothing is
lost on the way through text or through a wider kind, and it does not matter whether text takes the way through the
widest one (`coerce_wholeKind`).
-/
namespace QueryRows

open Number

variable {k k' : Kind} {w w' : WholeKind} {n : Int} {v : Value}

/-! ### Values of whole kinds -/

/-- **What a whole kind makes of a number in its range** is a value of that kind with that number. -/
theorem whole?_make (hk : WholeKind.of? k = some w) (hn : w.Holds n) :
    (w.make n).scalar? = k.scalar? ∧ (w.make n).whole? = some n := by
  obtain ⟨hlow, hhigh⟩ := hn
  cases k <;> cases hk
  · exact ⟨rfl, congrArg some (Int32.toInt_ofInt_of_le hlow (Int.lt_of_le_of_lt hhigh (by decide)))⟩
  · exact ⟨rfl, congrArg some (Int64.toInt_ofInt_of_le hlow (Int.lt_of_le_of_lt hhigh (by decide)))⟩
  · exact ⟨rfl, congrArg some (Int16.toInt_ofInt_of_le hlow (Int.lt_of_le_of_lt hhigh (by decide)))⟩
  · exact ⟨rfl, congrArg some (Int8.toInt_ofInt_of_le hlow (Int.lt_of_le_of_lt hhigh (by decide)))⟩

/-- **A value of a whole kind** is what the kind makes of a number in its range. -/
theorem exists_make_of_scalar? (hk : WholeKind.of? k = some w) (hv : v.scalar? = k.scalar?) :
    ∃ n, v.whole? = some n ∧ w.Holds n ∧ w.make n = v := by
  cases k <;> cases hk <;> cases v <;> cases hv
  · exact ⟨_, rfl, int32_bounds _, congrArg Value.int (Int32.ofInt_toInt _)⟩
  · exact ⟨_, rfl, int64_bounds _, congrArg Value.long (Int64.ofInt_toInt _)⟩
  · exact ⟨_, rfl, int16_bounds _, congrArg Value.short (Int16.ofInt_toInt _)⟩
  · exact ⟨_, rfl, int8_bounds _, congrArg Value.byte (Int8.ofInt_toInt _)⟩

/-! ### Conversions -/

theorem parseText_whole (hk : WholeKind.of? k = some w) (s : String) :
    parseText s k = match readInteger w.below w.above (Text.trim s.toList) with
      | .ok n => .ok (w.make n)
      | .error e => .error ⟨s, k, e.message⟩ := by
  cases k <;> cases hk <;> rfl

/-- **Text becomes a whole number of a kind** exactly when it writes, but for the blanks around it, an integer in the
kind's range. -/
theorem coerce_text_eq_ok_iff (hk : WholeKind.of? k = some w) (s : String) :
    coerce (.text s) k = .ok v ↔ ∃ n, Writes (Text.trim s.toList) n ∧ w.Holds n ∧ v = w.make n := by
  have hselect : Transform.select .text k = .parseText k := by cases k <;> cases hk <;> rfl
  have hread : ∀ n, readInteger w.below w.above (Text.trim s.toList) = .ok n ↔
      Writes (Text.trim s.toList) n ∧ w.Holds n := fun n => readInteger_eq_ok_iff
  rw [coerce_text_of_select hselect, parseText_whole hk]
  cases hr : readInteger w.below w.above (Text.trim s.toList) with
  | error e =>
    simp only [reduceCtorEq, false_iff, not_exists]
    rintro n ⟨hwrites, hholds, -⟩
    rw [(hread n).2 ⟨hwrites, hholds⟩] at hr
    cases hr
  | ok m =>
    simp only [Except.ok.injEq]
    constructor
    · rintro rfl
      exact ⟨m, ((hread m).1 hr).1, ((hread m).1 hr).2, rfl⟩
    · rintro ⟨n, hwrites, hholds, rfl⟩
      rw [(hread n).2 ⟨hwrites, hholds⟩] at hr
      cases hr
      rfl

theorem coerce_whole_text (hv : v.whole? = some n) : coerce v .text = .ok (.text (integerText n)) := by
  rw [← display_of_whole? hv]
  cases v <;> cases hv <;> rfl

theorem trim_integerText (n : Int) : Text.trim (integerText n).toList = integerDigits n := by
  rw [integerText, String.toList_ofList]
  refine Text.trim_eq_self fun c hc => ?_
  unfold integerDigits at hc
  split at hc
  · rcases List.mem_cons.1 hc with rfl | hc
    · rfl
    · exact isBlank_of_isDigit (isDigit_of_mem_digits hc)
  · exact isBlank_of_isDigit (isDigit_of_mem_digits hc)

/-- A whole number is read back from its text. -/
theorem coerce_integerText (hk : WholeKind.of? k = some w) (hn : w.Holds n) :
    coerce (.text (integerText n)) k = .ok (w.make n) :=
  (coerce_text_eq_ok_iff hk _).2 ⟨n, by rw [trim_integerText]; exact writes_integerDigits n, hn, rfl⟩

/-- Every range lies in that of the widest kind. -/
theorem WholeKind.Holds.long (hk : WholeKind.of? k = some w) (hn : w.Holds n) :
    ∀ l, WholeKind.of? .long = some l → l.Holds n := by
  rintro l ⟨⟩
  obtain ⟨hlow, hhigh⟩ := hn
  cases k <;> cases hk <;> exact ⟨Int.le_trans (by decide) hlow, Int.le_trans hhigh (by decide)⟩

/-- **Whole numbers pass through text and through wider kinds unchanged.**  Text becomes a number of a kind exactly when
it writes, but for the blanks around it, an integer in the kind's range, and then that very number; it does so directly
exactly as it does by way of a long.  A number of the kind is read back from its text, comes back from every whole kind
whose range it is in, and is refused by the others. -/
theorem coerce_wholeKind (hk : WholeKind.of? k = some w) :
    (∀ (s : String) (v : Value), coerce (.text s) k = .ok v ↔
      ∃ n, Writes (Text.trim s.toList) n ∧ w.Holds n ∧ v = w.make n) ∧
    (∀ n, w.Holds n → (w.make n).scalar? = k.scalar? ∧ (w.make n).whole? = some n) ∧
    (∀ (s : String) (v : Value), coerce (.text s) k = .ok v ↔
      ∃ l, coerce (.text s) .long = .ok l ∧ coerce l k = .ok v) ∧
    ∀ v : Value, v.scalar? = k.scalar? → ∃ n, v.whole? = some n ∧ w.Holds n ∧
      (∃ s, coerce v .text = .ok (.text s) ∧ coerce (.text s) k = .ok v) ∧
      ∀ (k' : Kind) (w' : WholeKind), WholeKind.of? k' = some w' →
        (w'.Holds n → ∃ u, coerce v k' = .ok u ∧ u.scalar? = k'.scalar? ∧ u.whole? = some n ∧ coerce u k = .ok v) ∧
          (¬ w'.Holds n → coerce v k' = .error ⟨v.display, k', "out of range"⟩) := by
  refine ⟨fun s v => coerce_text_eq_ok_iff hk s, fun n => whole?_make hk, fun s v => ?_, fun v hv => ?_⟩
  · rw [coerce_text_eq_ok_iff hk]
    constructor
    · rintro ⟨n, hwrites, hn, rfl⟩
      obtain ⟨-, hwhole⟩ := whole?_make (k := .long) rfl (hn.long hk _ rfl)
      refine ⟨_, (coerce_text_eq_ok_iff rfl s).2 ⟨n, hwrites, hn.long hk _ rfl, rfl⟩, ?_⟩
      rw [coerce_whole_eq hk hwhole, if_pos hn]
    · rintro ⟨l, hl, hcoerce⟩
      obtain ⟨n, hwrites, hn, rfl⟩ := (coerce_text_eq_ok_iff rfl s).1 hl
      rw [coerce_whole_eq hk (whole?_make (k := .long) rfl hn).2] at hcoerce
      split at hcoerce
      · rename_i hholds
        cases hcoerce
        exact ⟨n, hwrites, hholds, rfl⟩
      · cases hcoerce
  · obtain ⟨n, hwhole, hn, hmake⟩ := exists_make_of_scalar? hk hv
    refine ⟨n, hwhole, hn, ⟨_, coerce_whole_text hwhole, hmake ▸ coerce_integerText hk hn⟩, fun k' w' hk' => ⟨?_, ?_⟩⟩
    · intro hn'
      obtain ⟨hscalar, hwhole'⟩ := whole?_make hk' hn'
      refine ⟨w'.make n, by rw [coerce_whole_eq hk' hwhole, if_pos hn'], hscalar, hwhole', ?_⟩
      rw [coerce_whole_eq hk hwhole', if_pos hn, hmake]
    · intro hn'
      rw [coerce_whole_eq hk' hwhole, if_neg hn', display_of_whole? hwhole]

/-- The least byte is read with blanks and zeros around it and passes through a short; one more than the greatest byte is
a long in text and an int, but no byte. -/
theorem coerce_wholeKind_byte :
    ∃ w, WholeKind.of? .byte = some w ∧ w.Holds (-128) ∧ ¬ w.Holds 128 ∧
      coerce (.text " -00128\t") .byte = .ok (w.make (-128)) ∧ w.make (-128) = .byte (-128) ∧
      coerce (.text "+128") .long = .ok (.long 128) ∧ (∀ v, coerce (.text "+128") .byte ≠ .ok v) ∧
      (∃ u, coerce (.byte (-128)) .short = .ok u ∧ coerce u .byte = .ok (.byte (-128))) ∧
      coerce (.int 128) .byte = .error ⟨"128", .byte, "out of range"⟩ := by
  have hlow : Text.trim " -00128\t".toList = "-00128".toList := by rfl
  have hdigits : ∀ c ∈ "00128".toList, c.isDigit = true := List.all_eq_true.1 (by decide)
  have hwrites : Writes ('-' :: "00128".toList) (-128) := writes_minus_iff.2 ⟨by decide, hdigits, by decide⟩
  have hlong : coerce (.text "+128") .long = .ok (.long 128) := by rfl
  have hbyte := coerce_wholeKind (k := .byte) rfl
  refine ⟨_, rfl, by decide, by decide, (hbyte.1 _ _).2 ⟨-128, hlow ▸ hwrites, by decide, rfl⟩, rfl, hlong, ?_, ?_, ?_⟩
  · intro v hv
    obtain ⟨l, hl, hcoerce⟩ := (hbyte.2.2.1 _ v).1 hv
    rw [hlong] at hl
    cases hl
    cases hcoerce
  · obtain ⟨n, hn, -, -, hothers⟩ := hbyte.2.2.2 (.byte (-128)) rfl
    cases hn
    obtain ⟨u, hu, -, -, hback⟩ := (hothers .short _ rfl).1 (by decide)
    exact ⟨u, hu, hback⟩
  · obtain ⟨n, hn, -, -, hothers⟩ := (coerce_wholeKind (k := .int) rfl).2.2.2 (.int 128) rfl
    cases hn
    exact (hothers .byte _ rfl).2 (by decide)

end QueryRows
