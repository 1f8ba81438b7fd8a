import QueryRows.Template.Literal
/-!
# PlainText — text without backslashes and quotes

Numbers, dates, times and truth values are displayed without any character that would have to be escaped between
single quotes (`plain_display`); only text, bytes and the names of enumeration constants may hold such characters.
-/
namespace QueryRows

open Number

/-- **No character of the text has to be escaped.** -/
def Plain (cs : List Char) : Prop := ∀ c ∈ cs, needsEscape c = false

-- The instance is named: in a larger context the search may try every character instead of those in the text.
instance (cs : List Char) : Decidable (Plain cs) := List.decidableBAll (fun c => needsEscape c = false) cs

@[simp] theorem plain_nil : Plain [] := fun _ h => nomatch h

@[simp] theorem plain_cons {c : Char} {cs : List Char} : Plain (c :: cs) ↔ needsEscape c = false ∧ Plain cs :=
  List.forall_mem_cons

@[simp] theorem plain_append {as bs : List Char} : Plain (as ++ bs) ↔ Plain as ∧ Plain bs := List.forall_mem_append

theorem Plain.subset {as bs : List Char} (h : Plain bs) (hs : as ⊆ bs) : Plain as := fun c hc => h c (hs hc)

/-! ### Numbers -/

theorem needsEscape_of_isDigit {c : Char} (h : c.isDigit = true) : needsEscape c = false := by
  unfold needsEscape
  rw [Bool.or_eq_false_iff, beq_eq_false_iff_ne, beq_eq_false_iff_ne]
  constructor
  · rintro rfl
    exact absurd h (by decide)
  · rintro rfl
    exact absurd h (by decide)

@[simp] theorem plain_digits (n : Nat) : Plain (digits n) := fun _ hc => needsEscape_of_isDigit (isDigit_of_mem_digits hc)

@[simp] theorem plain_zeros (n : Nat) : Plain (zeros n) := fun c hc => by
  rw [(List.mem_replicate.1 hc).2]
  decide

theorem plain_integerDigits (n : Int) : Plain (integerDigits n) := by
  unfold integerDigits
  split
  · exact plain_cons.2 ⟨by decide, plain_digits _⟩
  · exact plain_digits _

@[simp] theorem plain_padded (width n : Nat) : Plain (padded width n) :=
  plain_append.2 ⟨plain_zeros _, plain_digits n⟩

theorem plain_positional {pointZero : Bool} {ds : List Char} {e : Int} (h : Plain ds) :
    Plain (positional pointZero ds e) := by
  have htake (k : Nat) : Plain (ds.take k) := h.subset (List.take_subset k ds)
  have hdrop (k : Nat) : Plain (ds.drop k) := h.subset (List.drop_subset k ds)
  unfold positional
  split
  · exact plain_cons.2 ⟨by decide, plain_cons.2 ⟨by decide, plain_append.2 ⟨plain_zeros _, h⟩⟩⟩
  · simp only
    split
    · exact plain_append.2 ⟨htake _, plain_cons.2 ⟨by decide, hdrop _⟩⟩
    · refine plain_append.2 ⟨plain_append.2 ⟨h, plain_zeros _⟩, ?_⟩
      cases pointZero <;> decide

theorem plain_exponential {ds : List Char} {e : Int} (h : Plain ds) : Plain (exponential ds e) := by
  unfold exponential
  refine plain_append.2 ⟨?_, plain_cons.2 ⟨by decide, plain_cons.2 ⟨?_, plain_digits _⟩⟩⟩
  · split
    · obtain ⟨hd, hr⟩ := plain_cons.1 h
      exact plain_cons.2 ⟨hd, plain_cons.2 ⟨by decide, hr⟩⟩
    · exact h
  · split <;> decide

theorem plain_magnitude (l : FloatLayout) (bits : UInt64) : Plain (l.magnitude bits) := by
  unfold FloatLayout.magnitude
  simp only
  split
  · split <;> decide
  · split
    · exact plain_positional (plain_digits _)
    · exact plain_exponential (plain_digits _)

theorem plain_floatText (x : Float) : Plain (floatText x).toList := by
  unfold floatText
  split
  · decide +kernel
  · split
    · split <;> decide +kernel
    · unfold FloatLayout.finite
      rw [String.toList_ofList]
      split
      · exact plain_cons.2 ⟨by decide, plain_magnitude _ _⟩
      · exact plain_magnitude _ _

theorem plain_decimalText (d : Decimal) : Plain d.text.toList := by
  have hds : Plain (padded (d.scale + 1) d.mantissa) := plain_padded _ _
  unfold Decimal.text
  simp only [String.toList_ofList]
  generalize padded (d.scale + 1) d.mantissa = ds at hds
  have hbody : Plain (if d.scale = 0 then ds.take (ds.length - d.scale)
      else ds.take (ds.length - d.scale) ++ '.' :: ds.drop (ds.length - d.scale)) := by
    have htake := hds.subset (List.take_subset (ds.length - d.scale) ds)
    have hdrop := hds.subset (List.drop_subset (ds.length - d.scale) ds)
    split
    · exact htake
    · exact plain_append.2 ⟨htake, plain_cons.2 ⟨by decide, hdrop⟩⟩
  split
  · exact plain_cons.2 ⟨by decide, hbody⟩
  · exact hbody

/-! ### Dates and times -/

theorem plain_yearText (y : Int) : Plain (Pattern.yearText y) := by
  unfold Pattern.yearText
  split
  · exact plain_padded _ _
  · refine plain_cons.2 ⟨?_, plain_padded _ _⟩
    split <;> decide

theorem plain_fractionText (n : Nat) : Plain (Pattern.fractionText n) := by
  unfold Pattern.fractionText
  split
  · exact plain_nil
  · split
    · exact plain_cons.2 ⟨by decide, plain_padded _ _⟩
    · split <;> exact plain_cons.2 ⟨by decide, plain_padded _ _⟩

/-- **A datetime is written without such characters** by a pattern that has none of its own. -/
theorem plain_write {p : Pattern} (hp : ∀ c, .literal c ∈ p → needsEscape c = false) (t : DateTime) :
    Plain (p.write t) := by
  intro c hc
  obtain ⟨item, hitem, hc⟩ := List.mem_flatMap.1 hc
  cases item with
  | year => exact plain_yearText _ c hc
  | fraction => exact plain_fractionText _ c hc
  | month => exact plain_padded _ _ c hc
  | day => exact plain_padded _ _ c hc
  | hour => exact plain_padded _ _ c hc
  | minute => exact plain_padded _ _ c hc
  | second => exact plain_padded _ _ c hc
  | literal d =>
    rw [List.mem_singleton.1 hc]
    exact hp d hitem
  | gap =>
    rw [List.mem_singleton.1 hc]
    decide

theorem plain_dateText (d : Date) : Plain d.text.toList := by
  unfold Date.text
  rw [String.toList_ofList]
  refine plain_write (fun c hc => ?_) _
  have : c = '-' := by simpa [Pattern.date, Pattern.yearFirst] using hc
  rw [this]
  decide

theorem plain_dateTimeText (t : DateTime) : Plain t.text.toList := by
  unfold DateTime.text
  rw [String.toList_ofList]
  refine plain_write (fun c hc => ?_) _
  have : c = '-' ∨ c = ':' := by
    simpa [Pattern.dateTime, Pattern.date, Pattern.yearFirst, Pattern.seconds, Pattern.minutes] using hc
  rcases this with rfl | rfl <;> decide

/-! ### Values -/

/-- The values that are displayed with characters of their own: texts, bytes and named constants. -/
def Value.holdsText : Value → Bool
  | .text _ | .bytes _ | .enumeration _ => true
  | _ => false

/-- **Every other value is displayed without backslashes and quotes.** -/
theorem plain_display {v : Value} (h : v.holdsText = false) : Plain v.display.toList := by
  have hint (n : Int) : Plain (integerText n).toList := by
    rw [integerText, String.toList_ofList]
    exact plain_integerDigits n
  cases v with
  | null => decide
  | int n => exact hint _
  | long n => exact hint _
  | short n => exact hint _
  | byte n => exact hint _
  | float x => exact plain_floatText x
  | decimal d => exact plain_decimalText d
  | boolean b => cases b <;> decide
  | date d => exact plain_dateText d
  | datetime t => exact plain_dateTimeText t
  | text s => cases h
  | bytes bs => cases h
  | enumeration e => cases h

end QueryRows
