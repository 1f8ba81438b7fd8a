import QueryRows.Proofs.Quoting
/-!
# LiteralReading — quoted values read back

The other half of escaping: a reader of quoted literals, which takes the character behind a backslash as it is and stops
at the first quote that no backslash takes the meaning of (`readLiteral?_isSome_iff`).  It reads an escaped text back
and stops right behind it, whatever follows (`readLiteral?_escapeLiteral`), so text and bytes that stand between quotes
in a query come back unchanged (`literals_readBack`).
-/
namespace QueryRows

/-- **Reads a literal from behind its opening quote**: its text, and what follows the closing quote. -/
def readLiteral? : List Char → Option (List Char × List Char)
  | [] => none
  | '\'' :: rest => some ([], rest)
  | ['\\'] => none
  | '\\' :: c :: cs => (readLiteral? cs).map fun p => (c :: p.1, p.2)
  | c :: cs => (readLiteral? cs).map fun p => (c :: p.1, p.2)

def readQuoted? : List Char → Option (List Char × List Char)
  | '\'' :: cs => readLiteral? cs
  | _ => none

variable {c : Char} {cs rest : List Char}

@[simp] theorem readLiteral?_quote (rest : List Char) : readLiteral? ('\'' :: rest) = some ([], rest) := by
  simp [readLiteral?]

@[simp] theorem readLiteral?_escaped (c : Char) (cs : List Char) :
    readLiteral? ('\\' :: c :: cs) = (readLiteral? cs).map fun p => (c :: p.1, p.2) := by
  rw [readLiteral?]

theorem readLiteral?_cons (h : needsEscape c = false) :
    readLiteral? (c :: cs) = (readLiteral? cs).map fun p => (c :: p.1, p.2) := by
  have hne : c ≠ '\\' ∧ c ≠ '\'' := by simpa [needsEscape] using h
  rw [readLiteral?]
  · exact fun hc => hne.2 hc
  · exact fun hc => absurd hc hne.1
  · exact fun _ _ hc => absurd hc hne.1

/-- **An escaped text is read back**, up to the quote that closes it. -/
theorem readLiteral?_escapeLiteral (cs rest : List Char) :
    readLiteral? (escapeLiteral cs ++ '\'' :: rest) = some (cs, rest) := by
  fun_induction escapeLiteral cs with
  | case1 => simp
  | case2 c cs hc ih => simp [ih]
  | case3 c cs hc ih => simp [readLiteral?_cons (Bool.eq_false_iff.2 hc), ih]

/-! ### Where the reader stops -/

theorem StaysInside.cons_cases (h : StaysInside (c :: cs)) :
    (c = '\\' ∧ ∃ d ds, cs = d :: ds ∧ StaysInside ds) ∨ (needsEscape c = false ∧ StaysInside cs) := by
  by_cases hc : needsEscape c = true
  · have heither : c = '\\' ∨ c = '\'' := by simpa [needsEscape] using hc
    rcases heither with rfl | rfl
    · -- a backslash alone leaves the reader behind it, not inside
      cases cs with
      | nil => exact absurd h.scan_eq (by decide)
      | cons d ds =>
        refine .inl ⟨rfl, d, ds, rfl, h.scan_eq, fun part hpart => ?_⟩
        exact h.never_outside ('\\' :: d :: part) (by simpa using hpart)
    · exact absurd rfl (h.never_outside ['\''] (by simp))
  · have hplain : needsEscape c = false := by simpa using hc
    have hstep : ∀ part, Quoting.inside.scan (c :: part) = Quoting.inside.scan part := by
      intro part
      rw [Quoting.scan, List.foldl_cons, Quoting.step_inside_of_plain hplain]
      rfl
    refine .inr ⟨hplain, by rw [← hstep, h.scan_eq], fun part hpart => ?_⟩
    rw [← hstep]
    exact h.never_outside (c :: part) (by simpa using hpart)

theorem exists_readLiteral? (rest : List Char) : ∀ {written : List Char}, StaysInside written →
    ∃ text, readLiteral? (written ++ '\'' :: rest) = some (text, rest)
  | [], _ => ⟨[], by simp⟩
  | c :: cs, h => by
    rcases h.cons_cases with ⟨rfl, d, ds, rfl, hds⟩ | ⟨hc, hcs⟩
    · obtain ⟨text, htext⟩ := exists_readLiteral? rest hds
      exact ⟨d :: text, by simp [htext]⟩
    · obtain ⟨text, htext⟩ := exists_readLiteral? rest hcs
      exact ⟨c :: text, by simp [readLiteral?_cons hc, htext]⟩
termination_by written => written.length

theorem staysInside_of_readLiteral? {text : List Char} (h : readLiteral? cs = some (text, rest)) :
    ∃ written, cs = written ++ '\'' :: rest ∧ StaysInside written := by
  fun_induction readLiteral? cs generalizing text with
  | case1 => cases h
  | case2 cs =>
    cases h
    exact ⟨[], rfl, .nil⟩
  | case3 => cases h
  | case4 c cs ih =>
    obtain ⟨p, hp, heq⟩ := Option.map_eq_some_iff.1 h
    cases heq
    obtain ⟨written, rfl, hwritten⟩ := ih hp
    exact ⟨'\\' :: c :: written, rfl, (StaysInside.escaped c).append hwritten⟩
  | case5 c cs hquote hend hescape ih =>
    obtain ⟨p, hp, heq⟩ := Option.map_eq_some_iff.1 h
    cases heq
    obtain ⟨written, hcs, hwritten⟩ := ih hp
    have hc : needsEscape c = false := by
      cases cs with
      | nil => simp [readLiteral?] at hp
      | cons d ds =>
        have hback : c ≠ '\\' := fun hc => hescape d ds hc rfl
        have hquote : c ≠ '\'' := fun hc => hquote hc
        simp [needsEscape, hback, hquote]
    exact ⟨c :: written, by rw [hcs]; rfl, (StaysInside.singleton hc).append hwritten⟩

/-- **The reader stops at the first quote that ends the literal.** -/
theorem readLiteral?_isSome_iff :
    (∃ text, readLiteral? cs = some (text, rest)) ↔ ∃ written, cs = written ++ '\'' :: rest ∧ StaysInside written := by
  constructor
  · rintro ⟨text, htext⟩
    exact staysInside_of_readLiteral? htext
  · rintro ⟨written, rfl, hwritten⟩
    exact exists_readLiteral? rest hwritten

/-! ### Values between quotes -/

theorem readQuoted?_escapeLiteral (cs rest : List Char) :
    readQuoted? ('\'' :: escapeLiteral cs ++ '\'' :: rest) = some (cs, rest) := readLiteral?_escapeLiteral cs rest

theorem escapeLiteral_injective {cs ds : List Char} (h : escapeLiteral cs = escapeLiteral ds) : cs = ds := by
  have hread := readLiteral?_escapeLiteral cs []
  rw [h, readLiteral?_escapeLiteral] at hread
  simpa using hread.symm

/-- **What is escaped is read back.**  Behind an opening quote, an escaped text and a closing quote are read as that text,
and what follows is left over, whatever it is; the reader stops nowhere but at a quote up to which the text has stayed
inside the literal.  So different texts are written differently, and text and bytes that are written between quotes are
read back, bytes as the text they are decoded to. -/
theorem literals_readBack (rest : List Char) :
    (∀ cs, readLiteral? (escapeLiteral cs ++ '\'' :: rest) = some (cs, rest)) ∧
    (∀ cs, (∃ text, readLiteral? cs = some (text, rest)) ↔
      ∃ written, cs = written ++ '\'' :: rest ∧ StaysInside written) ∧
    (∀ s t : String, renderValue (.text s) = renderValue (.text t) ↔ s = t) ∧
    (∀ s : String, readQuoted? ('\'' :: renderValue (.text s) ++ '\'' :: rest) = some (s.toList, rest)) ∧
    ∀ bs : List UInt8,
      readQuoted? ('\'' :: renderValue (.bytes bs) ++ '\'' :: rest) = some ((Text.decodeLossy bs).toList, rest) := by
  refine ⟨fun cs => readLiteral?_escapeLiteral cs rest, fun cs => readLiteral?_isSome_iff, fun s t => ⟨fun h => ?_, ?_⟩,
    fun s => readQuoted?_escapeLiteral s.toList rest, fun bs => readQuoted?_escapeLiteral _ rest⟩
  · exact String.toList_inj.1 (escapeLiteral_injective h)
  · rintro rfl
    rfl

end QueryRows
