import QueryRows.Proofs.NamedConstants
/-!
# PaddedTexts — blanks around a text that is converted

Numbers, truth values, dates and datetimes are read from a text without the blanks around it, so blanks put around the
text change nothing (`parseText_congr`).  In an enumeration only ordinals are read so; a form is compared with the text
as it stands, and blanks around it lose the constant (`not_padded_of_form`).  Blanks that make no text a form of a
constant or cease to be one change nothing there either (`coerce_padded`).
-/
namespace QueryRows

/-- A text is read when it is converted to such a kind; text and bytes take it whole, and the others leave it alone. -/
def Kind.isRead : Kind → Bool
  | .text | .bytes | .object _ | .any => false
  | _ => true

/-- A text with blanks put around it. -/
def PaddedText (text padded : String) : Prop := Text.Padded text.toList padded.toList

variable {k : Kind} {e : EnumType} {text padded : String}

theorem parseText_congr (hk : k.isRead = true) (hselect : Transform.select .text k = .parseText k)
    (h : Text.trim padded.toList = Text.trim text.toList) (v : Value) :
    parseText padded k = .ok v ↔ parseText text k = .ok v := by
  cases k with
  | int | long | short | byte =>
    simp only [parseText, WholeKind.of?, h]
    split <;> simp
  | float | decimal | date | datetime =>
    simp only [parseText, h]
    split <;> simp
  | boolean => simp only [parseText, h]
  | enumeration e => cases hselect
  | _ => cases hk

namespace EnumType

theorem ordinalsOf_congr {form : EnumConstant → String} (h : ∀ c ∈ e.constants,
      Text.sameIgnoringAsciiCase (form c) padded = Text.sameIgnoringAsciiCase (form c) text) :
    e.ordinalsOf form padded = e.ordinalsOf form text := by
  ext i
  constructor
  · rintro ⟨c, hget, hsame⟩
    exact ⟨c, hget, h c (List.mem_of_getElem? hget) ▸ hsame⟩
  · rintro ⟨c, hget, hsame⟩
    exact ⟨c, hget, (h c (List.mem_of_getElem? hget)).symm ▸ hsame⟩

/-- Texts that are the same forms and write the same number are resolved alike. -/
theorem resolve?_congr (h : Text.trim padded.toList = Text.trim text.toList) (hforms : ∀ c ∈ e.constants,
      ∀ form ∈ c.forms, Text.sameIgnoringAsciiCase form padded = Text.sameIgnoringAsciiCase form text) :
    e.resolve? padded = e.resolve? text := by
  have hfind : ∀ form : EnumConstant → String, (∀ c : EnumConstant, form c ∈ c.forms) →
      (e.constants.findIdx? fun c => Text.sameIgnoringAsciiCase (form c) padded) =
        e.constants.findIdx? fun c => Text.sameIgnoringAsciiCase (form c) text := by
    intro form hform
    have hsets := ordinalsOf_congr fun c hc => hforms c hc (form c) (hform c)
    exact Option.ext fun i => by rw [findIdx?_eq_some_iff_isLeast, findIdx?_eq_some_iff_isLeast, hsets]
  have hdisplay := hfind (·.display) fun c => by simp [EnumConstant.forms]
  have hname := hfind (·.name) fun c => by simp [EnumConstant.forms]
  rw [resolve?, resolve?, ordinal?, ordinal?, hdisplay, hname, h]

end EnumType

/-- **Blanks around a text do not change what it is converted to**, in every kind that reads it; in an enumeration, where
they neither make the text a form of some constant nor keep it from being one. -/
theorem coerce_padded (hk : k.isRead = true) (hpadded : PaddedText text padded)
    (hforms : ∀ e, k = .enumeration e → ∀ c ∈ e.constants, ∀ form ∈ c.forms,
      Text.sameIgnoringAsciiCase form padded = Text.sameIgnoringAsciiCase form text) (v : Value) :
    coerce (.text padded) k = .ok v ↔ coerce (.text text) k = .ok v := by
  have htrim : Text.trim padded.toList = Text.trim text.toList := hpadded.trim_eq
  cases k with
  | enumeration e =>
    have hresolve := EnumType.resolve?_congr htrim (hforms e rfl)
    rw [EnumType.coerce_enumeration (.inl rfl), EnumType.coerce_enumeration (.inl rfl), Value.display, Value.display,
      hresolve]
  | text | bytes | object _ | any => cases hk
  | _ =>
    rw [coerce_text_of_select rfl, coerce_text_of_select rfl]
    exact parseText_congr hk rfl htrim v

/-- The ordinal of a constant, and a number, among blanks of several kinds. -/
theorem coerce_padded_ordinal : ∃ e : EnumType, e = ⟨"Status", [⟨"ACTIVE", "Running"⟩, ⟨"PAUSED", "On hold"⟩]⟩ ∧
    PaddedText "1" "\t 1\n" ∧
    (∀ c ∈ e.constants, ∀ form ∈ c.forms,
      Text.sameIgnoringAsciiCase form "\t 1\n" = Text.sameIgnoringAsciiCase form "1") ∧
    coerce (.text "1") (.enumeration e) = .ok (.enumeration ⟨"Status", "PAUSED", 1⟩) ∧
    coerce (.text "\t 1\n") (.enumeration e) = .ok (.enumeration ⟨"Status", "PAUSED", 1⟩) ∧
    ∀ v, coerce (.text "\t 1\n") .float = .ok v ↔ coerce (.text "1") .float = .ok v := by
  have hpadded : PaddedText "1" "\t 1\n" :=
    Text.padded_of_all (show ['\t', ' '].all Text.isBlank = true by rfl) (show ['\n'].all Text.isBlank = true by rfl) ['1']
  have hforms : ∀ c ∈ [EnumConstant.mk "ACTIVE" "Running", ⟨"PAUSED", "On hold"⟩], ∀ form ∈ c.forms,
      Text.sameIgnoringAsciiCase form "\t 1\n" = Text.sameIgnoringAsciiCase form "1" := by decide
  have hplain : coerce (.text "1") (.enumeration ⟨"Status", [⟨"ACTIVE", "Running"⟩, ⟨"PAUSED", "On hold"⟩]⟩) =
      .ok (.enumeration ⟨"Status", "PAUSED", 1⟩) := by rfl
  refine ⟨_, rfl, hpadded, hforms, hplain, (coerce_padded rfl hpadded ?_ _).2 hplain, coerce_padded rfl hpadded ?_⟩
  · rintro e ⟨⟩
    exact hforms
  · rintro e ⟨⟩

/-- **Blanks around a form lose the constant**: the name of a constant gives it, and null with a blank on either side. -/
theorem not_padded_of_form : ∃ (e : EnumType) (text padded : String),
    e = ⟨"Status", [⟨"ACTIVE", "Running"⟩]⟩ ∧ text = "ACTIVE" ∧ padded = " ACTIVE " ∧
      (Kind.enumeration e).isRead = true ∧ PaddedText text padded ∧
      coerce (.text text) (.enumeration e) = .ok (.enumeration ⟨"Status", "ACTIVE", 0⟩) ∧
      coerce (.text padded) (.enumeration e) = .ok .null ∧
      ¬ ∀ v, coerce (.text padded) (.enumeration e) = .ok v ↔ coerce (.text text) (.enumeration e) = .ok v := by
  have hplain : coerce (.text "ACTIVE") (.enumeration ⟨"Status", [⟨"ACTIVE", "Running"⟩]⟩) =
      .ok (.enumeration ⟨"Status", "ACTIVE", 0⟩) := by rfl
  have hnull : coerce (.text " ACTIVE ") (.enumeration ⟨"Status", [⟨"ACTIVE", "Running"⟩]⟩) = .ok .null := by rfl
  have hblank : [' '].all Text.isBlank = true := rfl
  have hpadded : PaddedText "ACTIVE" " ACTIVE " := Text.padded_of_all hblank hblank "ACTIVE".toList
  refine ⟨_, _, _, rfl, rfl, rfl, rfl, hpadded, hplain, hnull, fun h => ?_⟩
  have hsame := (h .null).1 hnull
  rw [hplain] at hsame
  cases hsame

end QueryRows
