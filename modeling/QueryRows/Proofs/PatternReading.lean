import QueryRows.Proofs.ConversionTable
import QueryRows.Proofs.Trimming
/-!
# PatternReading — what a pattern reads

An item of a pattern reads some characters off the front of a text, and only such as it admits (`readsOff_readItem`).  So
a text that a pattern reads has no others than its items admit, and all of its literal characters (`of_readParts`).  A
colon stands in every text of a datetime and in none of a plain date: a text that is read as a datetime is read as that
datetime's date (`dateTime_read_agrees`).
-/
namespace QueryRows
namespace Pattern

open Number

/-- The characters of numbers and of what may stand around them. -/
def isNumberPart (c : Char) : Bool := c.isDigit || Text.isBlank c || c == '+' || c == '-' || c == '.'

/-- The characters that an item reads. -/
def admits : PatternItem → Char → Bool
  | .literal d, c => c == d
  | _, c => isNumberPart c

/-- **Characters of a kind are read off** the front of a text. -/
def ReadsOff (p : Char → Bool) (cs rest : List Char) : Prop := ∃ eaten, cs = eaten ++ rest ∧ ∀ c ∈ eaten, p c = true

variable {p q : Char → Bool} {cs ds rest : List Char}

theorem ReadsOff.refl (p : Char → Bool) (cs : List Char) : ReadsOff p cs cs := ⟨[], rfl, fun _ h => nomatch h⟩

theorem ReadsOff.cons {c : Char} (hc : p c = true) (h : ReadsOff p cs rest) : ReadsOff p (c :: cs) rest := by
  obtain ⟨eaten, rfl, heaten⟩ := h
  exact ⟨c :: eaten, rfl, List.forall_mem_cons.2 ⟨hc, heaten⟩⟩

theorem ReadsOff.trans (h : ReadsOff p cs ds) (h' : ReadsOff p ds rest) : ReadsOff p cs rest := by
  obtain ⟨eaten, rfl, heaten⟩ := h
  obtain ⟨eaten', rfl, heaten'⟩ := h'
  exact ⟨eaten ++ eaten', by rw [List.append_assoc], List.forall_mem_append.2 ⟨heaten, heaten'⟩⟩

theorem ReadsOff.mono (hpq : ∀ c, p c = true → q c = true) (h : ReadsOff p cs rest) : ReadsOff q cs rest := by
  obtain ⟨eaten, rfl, heaten⟩ := h
  exact ⟨eaten, rfl, fun c hc => hpq c (heaten c hc)⟩

theorem readsOff_dropWhile (p : Char → Bool) (cs : List Char) : ReadsOff p cs (cs.dropWhile p) :=
  ⟨cs.takeWhile p, List.takeWhile_append_dropWhile.symm, fun _ h => List.mem_takeWhile_imp h⟩

/-! ### Numbers -/

theorem isNumberPart_of_isDigit (c : Char) (h : c.isDigit = true) : isNumberPart c = true := by simp [isNumberPart, h]

theorem isNumberPart_of_isBlank (c : Char) (h : Text.isBlank c = true) : isNumberPart c = true := by
  simp [isNumberPart, h]

theorem readsOff_trimStart (cs : List Char) : ReadsOff isNumberPart cs (Text.trimStart cs) :=
  (readsOff_dropWhile Text.isBlank cs).mono isNumberPart_of_isBlank

theorem readsOff_takeDigits : ∀ (width : Nat) (cs : List Char), ReadsOff Char.isDigit cs (takeDigits width cs).2
  | 0, cs => .refl _ cs
  | _ + 1, [] => .refl _ []
  | width + 1, c :: cs => by
    rw [takeDigits]
    split
    · rename_i hc
      exact .cons hc (readsOff_takeDigits width cs)
    · exact .refl _ (c :: cs)

theorem readsOff_readNumber? {width n : Nat} (h : readNumber? width cs = some (n, rest)) :
    ReadsOff isNumberPart cs rest := by
  unfold readNumber? at h
  split at h
  · cases h
  · rename_i digits rest' hne htake
    cases h
    have hread := readsOff_takeDigits width cs
    rw [htake] at hread
    exact hread.mono isNumberPart_of_isDigit

theorem readsOff_readYear? {y : Int} (h : readYear? cs = some (y, rest)) : ReadsOff isNumberPart cs rest := by
  unfold readYear? at h
  split at h <;> obtain ⟨⟨n, rest'⟩, hnumber, ⟨⟩⟩ := Option.map_eq_some_iff.1 h
  · exact .cons rfl (readsOff_readNumber? hnumber)
  · exact .cons rfl (readsOff_readNumber? hnumber)
  · exact readsOff_readNumber? hnumber

theorem readsOff_readFraction? {n : Nat} (h : readFraction? cs = some (n, rest)) : ReadsOff isNumberPart cs rest := by
  unfold readFraction? at h
  split at h
  · rename_i cs'
    split at h
    · cases h
    · rename_i digits rest' hne htake
      cases h
      have hread := readsOff_takeDigits 9 cs'
      rw [htake] at hread
      exact .cons rfl ((hread.trans (readsOff_dropWhile Char.isDigit rest')).mono isNumberPart_of_isDigit)
  · cases h
    exact .refl _ _

/-! ### Items and patterns -/

/-- **An item reads only characters that it admits**, and a literal one reads its own. -/
theorem readsOff_readItem {parts parts' : Parts} {item : PatternItem}
    (h : readItem parts cs item = some (parts', rest)) :
    ReadsOff (admits item) cs rest ∧ ∀ c, item = .literal c → cs = c :: rest := by
  cases item with
  | literal d =>
    cases cs with
    | nil => cases h
    | cons c cs =>
      rw [readItem] at h
      split at h
      · rename_i hd
        subst hd
        cases h
        exact ⟨.cons (beq_self_eq_true _) (.refl _ _), fun d hd => by cases hd; rfl⟩
      · cases h
  | gap =>
    rw [readItem] at h
    cases h
    exact ⟨readsOff_trimStart cs, fun c hc => nomatch hc⟩
  | fraction =>
    obtain ⟨⟨n, rest'⟩, hread, ⟨⟩⟩ := Option.map_eq_some_iff.1 h
    exact ⟨readsOff_readFraction? hread, fun c hc => nomatch hc⟩
  | year =>
    obtain ⟨⟨n, rest'⟩, hread, ⟨⟩⟩ := Option.map_eq_some_iff.1 h
    exact ⟨(readsOff_trimStart cs).trans (readsOff_readYear? hread), fun c hc => nomatch hc⟩
  | month | day | hour | minute | second =>
    obtain ⟨⟨n, rest'⟩, hread, ⟨⟩⟩ := Option.map_eq_some_iff.1 h
    exact ⟨(readsOff_trimStart cs).trans (readsOff_readNumber? hread), fun c hc => nomatch hc⟩

/-- **A text that a pattern reads** has no character that none of its items admits, and all its literal characters. -/
theorem of_readParts {p : Pattern} : ∀ {parts parts' : Parts} {cs : List Char}, readParts parts p cs = some parts' →
    (∀ c ∈ cs, ∃ item ∈ p, admits item c = true) ∧ ∀ c, .literal c ∈ p → c ∈ cs := by
  induction p with
  | nil =>
    intro parts parts' cs h
    cases cs with
    | nil => exact ⟨fun _ h => (nomatch h), fun _ h => (nomatch h)⟩
    | cons c cs => cases h
  | cons item p ih =>
    intro parts parts' cs h
    unfold readParts at h
    split at h
    · rename_i parts₁ rest hitem
      obtain ⟨⟨eaten, rfl, heaten⟩, hliteral⟩ := readsOff_readItem hitem
      obtain ⟨hadmits, hmem⟩ := ih h
      refine ⟨fun c hc => ?_, fun c hc => ?_⟩
      · rcases List.mem_append.1 hc with hc | hc
        · exact ⟨item, List.mem_cons_self, heaten c hc⟩
        · obtain ⟨item', hitem', hadmit⟩ := hadmits c hc
          exact ⟨item', List.mem_cons_of_mem item hitem', hadmit⟩
      · rcases List.mem_cons.1 hc with rfl | hc
        · rw [hliteral c rfl]
          exact List.mem_cons_self
        · exact List.mem_append_right eaten (hmem c hc)
    · cases h

/-- No pattern of dates reads a colon. -/
theorem readDate?_of_colon {p : Pattern} (hp : p ∈ dates) (h : ':' ∈ cs) : p.readDate? cs = none := by
  have hno : ∀ p ∈ dates, ∀ item ∈ p, admits item ':' = false := by decide
  rw [readDate?, Option.bind_eq_none_iff]
  intro parts hparts
  obtain ⟨item, hitem, hadmit⟩ := (of_readParts hparts).1 ':' h
  rw [hno p hp item hitem] at hadmit
  cases hadmit

/-- Every pattern of datetimes reads one. -/
theorem colon_of_readDateTime? {p : Pattern} (hp : p ∈ dateTimes) {t : DateTime} (h : p.readDateTime? cs = some t) :
    ':' ∈ cs := by
  have hall : ∀ p ∈ dateTimes, .literal ':' ∈ p := by decide
  obtain ⟨parts, hparts, -⟩ := Option.bind_eq_some_iff.1 h
  exact (of_readParts hparts).2 ':' (hall p hp)

end Pattern

/-! ### Dates and datetimes -/

theorem colon_of_dateTime_read? {text : List Char} {t : DateTime} (h : DateTime.read? text = some t) :
    ':' ∈ Text.trim text := by
  obtain ⟨p, hp, hread⟩ := List.exists_of_findSome?_eq_some h
  -- the text without its last `Z`s begins as it does with them
  exact (List.rdropWhile_prefix _ _).subset (Pattern.colon_of_readDateTime? hp hread)

theorem DateTime.read?_trim (text : List Char) : DateTime.read? (Text.trim text) = DateTime.read? text := by
  rw [read?, read?, Text.trim_trim]

theorem Date.read?_trim (text : List Char) : Date.read? (Text.trim text) = Date.read? text := by
  rw [read?, read?, Text.trim_trim]

/-- **A text that is read as a datetime is read as its date.** -/
theorem Date.read?_of_dateTime {text : List Char} {t : DateTime} (h : DateTime.read? text = some t) :
    Date.read? text = some t.date := by
  have hnone : Pattern.dates.findSome? (fun p => p.readDate? (Text.trim text)) = none :=
    List.findSome?_eq_none_iff.2 fun p hp => Pattern.readDate?_of_colon hp (colon_of_dateTime_read? h)
  rw [read?, hnone, Option.none_or, DateTime.read?_trim, h, Option.map_some]

theorem coerce_text_datetime_eq_ok_iff (s : String) (w : Value) :
    coerce (.text s) .datetime = .ok w ↔ ∃ t, DateTime.read? s.toList = some t ∧ w = .datetime t := by
  rw [coerce_text_of_select rfl, parseText, DateTime.read?_trim]
  cases DateTime.read? s.toList <;> simp [eq_comm]

theorem coerce_text_date_eq_ok_iff (s : String) (w : Value) :
    coerce (.text s) .date = .ok w ↔ ∃ d, Date.read? s.toList = some d ∧ w = .date d := by
  rw [coerce_text_of_select rfl, parseText, Date.read?_trim]
  cases Date.read? s.toList <;> simp [eq_comm]

/-- **Reading a text as a date agrees with reading it as a datetime.**  A text that is a datetime is, as a date, that
datetime's date; so where text becomes a datetime, it becomes as a date what a date field takes of the datetime. -/
theorem dateTime_read_agrees :
    (∀ (text : List Char) (t : DateTime), DateTime.read? text = some t → Date.read? text = some t.date) ∧
      ∀ (s : String) (w : Value), coerce (.text s) .datetime = .ok w →
        ∃ d, ScalarType.date.take w = .ok (.date d) ∧ coerce (.text s) .date = .ok (.date d) := by
  refine ⟨fun text t h => Date.read?_of_dateTime h, fun s w h => ?_⟩
  obtain ⟨t, ht, rfl⟩ := (coerce_text_datetime_eq_ok_iff s w).1 h
  have hdate : Date.read? s.toList = some t.date := Date.read?_of_dateTime ht
  refine ⟨t.date, ?_, (coerce_text_date_eq_ok_iff s _).2 ⟨t.date, hdate, rfl⟩⟩
  rw [ScalarType.take]

/-- A month-first text with a leap second, a `Z` and blanks around it gives the last day of its year either way. -/
theorem dateTime_read_agrees_newYear :
    let text := " 12/31/2016 23:59:60Z\n"
    ∃ t, DateTime.read? text.toList = some t ∧ t.date = ⟨2016, 12, 31, by decide⟩ ∧ t.time.shownSecond = 60 ∧
      Date.read? text.toList = some t.date ∧ coerce (.text text) .datetime = .ok (.datetime t) ∧
      ∃ d, ScalarType.date.take (.datetime t) = .ok (.date d) ∧ coerce (.text text) .date = .ok (.date d) := by
  intro text
  obtain ⟨t, ht, hdate, hsecond⟩ : ∃ t, DateTime.read? " 12/31/2016 23:59:60Z\n".toList = some t ∧
      t.date = ⟨2016, 12, 31, by decide⟩ ∧ t.time.shownSecond = 60 := ⟨_, rfl, rfl, rfl⟩
  have hcoerce : coerce (.text text) .datetime = .ok (.datetime t) :=
    (coerce_text_datetime_eq_ok_iff _ _).2 ⟨t, ht, rfl⟩
  exact ⟨t, ht, hdate, hsecond, dateTime_read_agrees.1 _ t ht, hcoerce, dateTime_read_agrees.2 text _ hcoerce⟩

end QueryRows
