import QueryRows.Calendar.Pattern
import QueryRows.Proofs.DigitTexts
/-!
# PatternTexts — what patterns write, read again

An item reads back the number that it has written, where what stands behind it cannot be read on (`readItem_writeItem`).
So a pattern whose items are spaced apart reads back every part that it writes (`readParts_write`).  Whether a pattern
fails on the texts of another one can be seen from the two patterns (`readParts_of_clashes`).
-/
namespace QueryRows

open Number

theorem daysInMonth_bounds (year : Int) (month : Nat) : 28 ≤ daysInMonth year month ∧ daysInMonth year month ≤ 31 := by
  unfold daysInMonth
  split <;> try split
  all_goals omega

theorem isCalendarDay_iff {year : Int} {month day : Nat} :
    isCalendarDay year month day = true ↔
      -262143 ≤ year ∧ year ≤ 262142 ∧ 1 ≤ month ∧ month ≤ 12 ∧ 1 ≤ day ∧ day ≤ daysInMonth year month := by
  simp only [isCalendarDay, Bool.and_eq_true, decide_eq_true_eq, and_assoc]

/-- **The months and days of the calendar are bounded.** -/
theorem Date.bounds (d : Date) : 1 ≤ d.month ∧ d.month ≤ 12 ∧ 1 ≤ d.day ∧ d.day ≤ 31 := by
  obtain ⟨-, -, hmonth, hmonth', hday, hday'⟩ := isCalendarDay_iff.1 d.valid
  exact ⟨hmonth, hmonth', hday, hday'.trans (daysInMonth_bounds d.year d.month).2⟩

theorem TimeOfDay.shownSecond_le (t : TimeOfDay) : t.shownSecond ≤ 60 := by
  have htime := t.valid
  unfold shownSecond
  omega

theorem TimeOfDay.fraction_lt (t : TimeOfDay) : t.fraction < 10 ^ 9 := Nat.mod_lt _ (by decide)

namespace Pattern

variable {p q : Pattern} {item : PatternItem} {t : DateTime} {parts : Parts} {cs ds rest : List Char}

/-! ### Numbers -/

theorem takeDigits_append (hstop : ∀ c ∈ rest.head?, c.isDigit = false) :
    ∀ {width : Nat} {ds : List Char}, (∀ c ∈ ds, c.isDigit = true) → ds.length ≤ width →
      takeDigits width (ds ++ rest) = (ds, rest)
  | 0, [], _, _ => rfl
  | 0, _ :: _, _, hlength => absurd hlength (Nat.not_succ_le_zero _)
  | width + 1, [], _, _ => by
    cases rest with
    | nil => rfl
    | cons c rest => simp [takeDigits, hstop c rfl]
  | width + 1, c :: ds, hdigits, hlength => by
    rw [List.forall_mem_cons] at hdigits
    simp [takeDigits, hdigits.1, takeDigits_append hstop hdigits.2 (Nat.le_of_succ_le_succ hlength)]

/-- As many digits as are asked for are taken, whatever follows them. -/
theorem takeDigits_length : ∀ {ds : List Char}, (∀ c ∈ ds, c.isDigit = true) →
    takeDigits ds.length (ds ++ rest) = (ds, rest)
  | [], _ => by cases rest <;> rfl
  | c :: ds, hdigits => by
    rw [List.forall_mem_cons] at hdigits
    simp [takeDigits, hdigits.1, takeDigits_length hdigits.2]

theorem readNumber?_of_takeDigits {width : Nat} (hne : ds ≠ []) (htake : takeDigits width cs = (ds, rest)) :
    readNumber? width cs = some (digitsValue ds, rest) := by
  rw [readNumber?, htake]
  cases ds with
  | nil => exact absurd rfl hne
  | cons c ds => rfl

/-- **A number of a width is read by that width**, whatever follows it. -/
theorem readNumber?_padded {width n : Nat} (hwidth : 0 < width) (hn : n < 10 ^ width) (rest : List Char) :
    readNumber? width (padded width n ++ rest) = some (n, rest) := by
  have htake : takeDigits width (padded width n ++ rest) = (padded width n, rest) := by
    have hdigits : ∀ c ∈ padded width n, c.isDigit = true := fun c hc => isDigit_of_mem_padded hc
    have htake : takeDigits (padded width n).length (padded width n ++ rest) = (padded width n, rest) :=
      takeDigits_length hdigits
    rwa [length_padded hwidth hn] at htake
  rw [readNumber?_of_takeDigits (padded_ne_nil width n) htake, digitsValue_padded]

theorem exists_padded_cons (width n : Nat) : ∃ c cs, padded width n = c :: cs ∧ c.isDigit = true := by
  obtain ⟨c, cs, hcs⟩ := List.exists_cons_of_ne_nil (padded_ne_nil width n)
  exact ⟨c, cs, hcs, isDigit_of_mem_padded (by rw [hcs]; exact List.mem_cons_self)⟩

theorem trimStart_padded (width n : Nat) (rest : List Char) :
    Text.trimStart (padded width n ++ rest) = padded width n ++ rest := by
  obtain ⟨c, cs, hcs, hc⟩ := exists_padded_cons width n
  rw [hcs]
  exact Text.trimStart_eq_self_of_head (isBlank_of_isDigit hc)

theorem exists_yearText_cons (y : Int) : ∃ c cs, yearText y = c :: cs ∧ Text.isBlank c = false := by
  unfold yearText
  split
  · obtain ⟨c, cs, hcs, hc⟩ := exists_padded_cons 4 y.natAbs
    exact ⟨c, cs, hcs, isBlank_of_isDigit hc⟩
  · exact ⟨_, _, rfl, by split <;> rfl⟩

theorem trimStart_yearText (y : Int) (rest : List Char) :
    Text.trimStart (yearText y ++ rest) = yearText y ++ rest := by
  obtain ⟨c, cs, hcs, hblank⟩ := exists_yearText_cons y
  rw [hcs]
  exact Text.trimStart_eq_self_of_head hblank

/-- A year without a sign has up to four digits. -/
theorem readYear?_of_isDigit {c : Char} (hc : c.isDigit = true) :
    readYear? (c :: cs) = (readNumber? 4 (c :: cs)).map fun r => ((r.1 : Int), r.2) := by
  unfold readYear?
  split
  · rename_i heq
    cases heq
    cases hc
  · rename_i heq
    cases heq
    cases hc
  · rfl

/-- **A year is read from its text**, if no further digit follows it. -/
theorem readYear?_yearText (y : Int) (hstop : ∀ c ∈ rest.head?, c.isDigit = false) :
    readYear? (yearText y ++ rest) = some (y, rest) := by
  have hsigned (n : Nat) : readNumber? (padded 4 n ++ rest).length (padded 4 n ++ rest) = some (n, rest) := by
    have hlength : (padded 4 n).length ≤ (padded 4 n ++ rest).length := by simp
    rw [readNumber?_of_takeDigits (padded_ne_nil 4 n)
      (takeDigits_append hstop (fun c hc => isDigit_of_mem_padded hc) hlength), digitsValue_padded]
  unfold yearText
  split
  · rename_i hplain
    simp only [Bool.and_eq_true, decide_eq_true_eq] at hplain
    have hread : readNumber? 4 (padded 4 y.natAbs ++ rest) = some (y.natAbs, rest) :=
      readNumber?_padded (by decide) (by omega) rest
    have habs : ((y.natAbs : Nat) : Int) = y := by omega
    obtain ⟨c, cs, hcs, hc⟩ := exists_padded_cons 4 y.natAbs
    rw [hcs, List.cons_append] at hread ⊢
    rw [readYear?_of_isDigit hc, hread, Option.map_some, habs]
  · split
    · have habs : -((y.natAbs : Nat) : Int) = y := by omega
      simp only [List.cons_append, readYear?, hsigned, Option.map_some, habs]
    · have habs : ((y.natAbs : Nat) : Int) = y := by omega
      simp only [List.cons_append, readYear?, hsigned, Option.map_some, habs]

/-- Two digits of a year leave another digit behind them; before a sign there are none. -/
theorem readNumber?_two_yearText {y : Int} {n : Nat} {left : List Char}
    (h : readNumber? 2 (yearText y ++ rest) = some (n, left)) : ∃ c cs, left = c :: cs ∧ c.isDigit = true := by
  unfold yearText at h
  split at h
  · rename_i hplain
    simp only [Bool.and_eq_true, decide_eq_true_eq] at hplain
    have hlength : (padded 4 y.natAbs).length = 4 := length_padded (by decide) (by omega)
    obtain ⟨a, b, c, d, habcd⟩ := List.length_eq_four.1 hlength
    have hdigits : ∀ c ∈ padded 4 y.natAbs, c.isDigit = true := fun c hc => isDigit_of_mem_padded hc
    simp only [habcd, List.forall_mem_cons] at hdigits h
    obtain ⟨ha, hb, hc, -⟩ := hdigits
    simp only [List.cons_append, readNumber?, takeDigits, ha, hb, if_true, Option.some.injEq, Prod.mk.injEq] at h
    exact ⟨c, _, h.2.symm, hc⟩
  · split at h <;> cases h

/-- A fraction of nine digits or fewer is read to its end. -/
theorem readFraction?_padded {width n : Nat} (hwidth : 0 < width) (hle : width ≤ 9) (hn : n < 10 ^ width) :
    readFraction? ('.' :: padded width n) = some (n * 10 ^ (9 - width), []) := by
  have hlength := length_padded hwidth hn
  have htake : takeDigits 9 (padded width n) = (padded width n, []) := by
    have h : takeDigits 9 (padded width n ++ []) = (padded width n, []) :=
      takeDigits_append (by simp) (fun c hc => isDigit_of_mem_padded hc) (hlength.le.trans hle)
    rwa [List.append_nil] at h
  obtain ⟨c, cs, hcs⟩ := List.exists_cons_of_ne_nil (padded_ne_nil width n)
  have hvalue := digitsValue_padded width n
  simp only [hcs] at htake hvalue hlength ⊢
  simp only [readFraction?, htake, hvalue, hlength, List.dropWhile_nil]

/-- **A fraction is read from its text**, which is exact. -/
theorem readFraction?_fractionText {n : Nat} (hn : n < 10 ^ 9) : readFraction? (fractionText n) = some (n, []) := by
  unfold fractionText
  split
  · rename_i hzero
    rw [hzero]
    rfl
  · split
    · rw [readFraction?_padded (by decide) (by decide) (by omega)]
      congr 2
      omega
    · split
      · rw [readFraction?_padded (by decide) (by decide) (by omega)]
        congr 2
        omega
      · rw [readFraction?_padded (by decide) (by decide) hn, Nat.pow_zero, Nat.mul_one]

/-! ### Items -/

/-- The items of two digits. -/
def isPair : PatternItem → Bool
  | .month | .day | .hour | .minute | .second => true
  | _ => false

/-- The number that an item of two digits writes. -/
def pairNumber (t : DateTime) : PatternItem → Nat
  | .month => t.date.month
  | .day => t.date.day
  | .hour => t.time.hour
  | .minute => t.time.minute
  | .second => t.time.shownSecond
  | _ => 0

/-- The parts with another number for an item of two digits. -/
def Parts.setPair (parts : Parts) (n : Nat) : PatternItem → Parts
  | .month => { parts with month := n }
  | .day => { parts with day := n }
  | .hour => { parts with hour := n }
  | .minute => { parts with minute := n }
  | .second => { parts with second := n }
  | _ => parts

/-- The parts with what an item writes of a datetime. -/
def Parts.note (t : DateTime) (parts : Parts) : PatternItem → Parts
  | .year => { parts with year := t.date.year }
  | .fraction => { parts with fraction := t.time.fraction }
  | item => parts.setPair (pairNumber t item) item

theorem pairNumber_lt (t : DateTime) (item : PatternItem) : pairNumber t item < 10 ^ 2 := by
  have hdate := t.date.bounds
  have htime := t.time.valid
  have hsecond := t.time.shownSecond_le
  cases item <;> simp only [pairNumber] <;> omega

theorem writeItem_of_isPair (h : isPair item = true) : writeItem t item = padded 2 (pairNumber t item) := by
  cases item with
  | month | day | hour | minute | second => rfl
  | year | fraction | literal | gap => cases h

theorem readItem_of_isPair (h : isPair item = true) (parts : Parts) (cs : List Char) :
    readItem parts cs item = (readNumber? 2 (Text.trimStart cs)).map fun r => (parts.setPair r.1 item, r.2) := by
  cases item with
  | month | day | hour | minute | second => rfl
  | year | fraction | literal | gap => cases h

/-- **What may stand behind an item**, so that no more is read than it has written. -/
def StopsBefore : PatternItem → List Char → Prop
  | .year, rest => ∀ c ∈ rest.head?, c.isDigit = false
  | .gap, rest => ∀ c ∈ rest.head?, Text.isBlank c = false
  | .fraction, rest => rest = []
  | _, _ => True

/-- An item of two digits reads what any of them has written. -/
theorem readItem_pair {next : PatternItem} (hitem : isPair item = true) (hnext : isPair next = true) (parts : Parts)
    (rest : List Char) :
    readItem parts (writeItem t next ++ rest) item = some (parts.setPair (pairNumber t next) item, rest) := by
  rw [readItem_of_isPair hitem, writeItem_of_isPair hnext, trimStart_padded,
    readNumber?_padded (by decide) (pairNumber_lt t next), Option.map_some]

/-- **An item reads what it has written.** -/
theorem readItem_writeItem (parts : Parts) (h : StopsBefore item rest) :
    readItem parts (writeItem t item ++ rest) item = some (parts.note t item, rest) := by
  cases item with
  | year =>
    rw [readItem, writeItem, trimStart_yearText, readYear?_yearText t.date.year h, Option.map_some, Parts.note]
  | fraction =>
    cases h
    rw [readItem, writeItem, List.append_nil, readFraction?_fractionText t.time.fraction_lt, Option.map_some, Parts.note]
  | literal c => exact if_pos rfl
  | gap =>
    have htrim : Text.trimStart (' ' :: rest) = Text.trimStart rest := rfl
    rw [writeItem, List.cons_append, List.nil_append, readItem, htrim, Text.trimStart_eq_self_iff.2 h]
    rfl
  | month | day | hour | minute | second => exact readItem_pair rfl rfl parts rest

/-! ### Patterns -/

theorem write_cons (item : PatternItem) (p : Pattern) (t : DateTime) :
    write (item :: p) t = writeItem t item ++ write p t := List.flatMap_cons

/-- `StopsBefore`, seen from the pattern that writes what stands behind the item. -/
def endsBefore : PatternItem → Pattern → Bool
  | .year, .literal c :: _ => !c.isDigit
  | .year, next :: _ => next == .gap
  | .gap, .literal c :: _ => !Text.isBlank c
  | .gap, next :: _ => isPair next || next == .year
  | .fraction, p => p.isEmpty
  | _, _ => true

theorem stopsBefore_write (h : endsBefore item p = true) : StopsBefore item (write p t) := by
  cases item with
  | year =>
    cases p with
    | nil => exact fun c hc => nomatch hc
    | cons next p =>
      cases next with
      | literal d => simpa [endsBefore, StopsBefore, write_cons, writeItem] using h
      | gap =>
        intro c hc
        cases hc
        rfl
      | _ => cases h
  | gap =>
    cases p with
    | nil => exact fun c hc => nomatch hc
    | cons next p =>
      cases next with
      | literal d => simpa [endsBefore, StopsBefore, write_cons, writeItem] using h
      | year => exact Text.trimStart_eq_self_iff.1 (trimStart_yearText t.date.year (write p t))
      | month | day | hour | minute | second => exact Text.trimStart_eq_self_iff.1 (trimStart_padded 2 _ _)
      | gap | fraction => cases h
  | fraction =>
    cases p with
    | nil => rfl
    | cons next p => cases h
  | _ => trivial

/-- Every item of a pattern ends before those behind it. -/
def spaced : Pattern → Bool
  | [] => true
  | item :: p => endsBefore item p && spaced p

/-- The parts with everything that a pattern writes of a datetime. -/
def Parts.notes (t : DateTime) (parts : Parts) (p : Pattern) : Parts := p.foldl (Parts.note t) parts

/-- **A pattern reads back what it writes.** -/
theorem readParts_write (t : DateTime) : ∀ {p : Pattern}, spaced p = true → ∀ parts : Parts,
    readParts parts p (write p t) = some (parts.notes t p)
  | [], _, _ => rfl
  | item :: p, h, parts => by
    rw [spaced, Bool.and_eq_true] at h
    rw [write_cons, readParts, readItem_writeItem parts (stopsBefore_write h.1)]
    exact readParts_write t h.2 (parts.note t item)

/-! ### The texts of other patterns -/

/-- What an item makes of the text of a pattern. -/
inductive Encounter where
  /-- it cannot read it -/
  | fails
  /-- it reads it up to the text of this end of the pattern -/
  | leaves (rest : Pattern)
  /-- it cannot read it, or leaves a digit in front -/
  | leavesDigit
  /-- nothing is said -/
  | unknown

/-- An item that is read like this has met what is said. -/
def Encounter.Holds (p : Pattern) (t : DateTime) : Encounter → Option (Parts × List Char) → Prop
  | .fails, read => read = none
  | .leaves rest, read => rest <:+ p ∧ ∃ parts, read = some (parts, write rest t)
  | .leavesDigit, read => ∀ parts rest, read = some (parts, rest) → ∃ c cs, rest = c :: cs ∧ c.isDigit = true
  | .unknown, _ => True

def literalMeets (c : Char) : Pattern → Encounter
  | [] => .fails
  | .literal d :: p => if c = d then .leaves p else .fails
  | .gap :: _ => if c = ' ' then .unknown else .fails
  | _ => .unknown

def gapMeets : Pattern → Encounter
  | .literal d :: p => if Text.isBlank d then .unknown else .leaves (.literal d :: p)
  | .gap :: p => if endsBefore .gap p then .leaves p else .unknown
  | _ => .unknown

def yearMeets : Pattern → Encounter
  | next :: p => if (next == .year || isPair next) && endsBefore .year p then .leaves p else .unknown
  | [] => .unknown

def pairMeets : Pattern → Encounter
  | .literal d :: _ => if Text.isBlank d || d.isDigit then .unknown else .fails
  | .year :: _ => .leavesDigit
  | .month :: p | .day :: p | .hour :: p | .minute :: p | .second :: p => .leaves p
  | .gap :: _ | .fraction :: _ | [] => .unknown

/-- **An item meets the text of a pattern.** -/
def meet : PatternItem → Pattern → Encounter
  | .literal c => literalMeets c
  | .gap => gapMeets
  | .year => yearMeets
  | .fraction => fun _ => .unknown
  | .month | .day | .hour | .minute | .second => pairMeets

theorem literalMeets_holds (t : DateTime) (parts : Parts) (c : Char) (p : Pattern) :
    (literalMeets c p).Holds p t (readItem parts (write p t) (.literal c)) := by
  unfold literalMeets
  split
  · rfl
  · rename_i d p
    rw [write_cons, writeItem, List.singleton_append, readItem]
    by_cases hcd : c = d
    · rw [if_pos hcd, if_pos hcd.symm]
      exact ⟨List.suffix_cons _ p, parts, rfl⟩
    · rw [if_neg hcd, if_neg (Ne.symm hcd)]
      rfl
  · rename_i p
    rw [write_cons, writeItem, List.singleton_append, readItem]
    by_cases hc : c = ' '
    · rw [if_pos hc]
      trivial
    · rw [if_neg hc, if_neg (Ne.symm hc)]
      rfl
  · trivial

theorem gapMeets_holds (t : DateTime) (parts : Parts) (p : Pattern) :
    (gapMeets p).Holds p t (readItem parts (write p t) .gap) := by
  unfold gapMeets
  split
  · rename_i d p
    split
    · trivial
    · rename_i hblank
      refine ⟨List.suffix_rfl, parts, ?_⟩
      rw [write_cons, writeItem, List.singleton_append, readItem,
        Text.trimStart_eq_self_of_head (Bool.eq_false_iff.2 hblank)]
  · rename_i p
    split
    · rename_i hends
      exact ⟨List.suffix_cons _ p, _, write_cons .gap p t ▸ readItem_writeItem parts (stopsBefore_write hends)⟩
    · trivial
  · trivial

theorem yearMeets_holds (t : DateTime) (parts : Parts) (p : Pattern) :
    (yearMeets p).Holds p t (readItem parts (write p t) .year) := by
  unfold yearMeets
  split
  · rename_i next p
    split
    · rename_i h
      simp only [Bool.and_eq_true, Bool.or_eq_true, beq_iff_eq] at h
      obtain ⟨rfl | hnext, hends⟩ := h
      · exact ⟨List.suffix_cons _ p, _, write_cons .year p t ▸ readItem_writeItem parts (stopsBefore_write hends)⟩
      · -- two digits are read as a year as well
        have hlength : (padded 2 (pairNumber t next)).length ≤ 4 := by
          rw [length_padded (by decide) (pairNumber_lt t next)]
          decide
        have hstop : StopsBefore .year (write p t) := stopsBefore_write hends
        have hread := readNumber?_of_takeDigits (padded_ne_nil 2 (pairNumber t next))
          (takeDigits_append hstop (fun c hc => isDigit_of_mem_padded hc) hlength)
        rw [write_cons, writeItem_of_isPair hnext, readItem, trimStart_padded]
        obtain ⟨c, cs, hcs, hc⟩ := exists_padded_cons 2 (pairNumber t next)
        rw [hcs, List.cons_append] at hread ⊢
        rw [readYear?_of_isDigit hc, hread]
        exact ⟨List.suffix_cons _ p, _, rfl⟩
    · trivial
  · trivial

theorem pairMeets_holds (hitem : isPair item = true) (t : DateTime) (parts : Parts) (p : Pattern) :
    (pairMeets p).Holds p t (readItem parts (write p t) item) := by
  cases p with
  | nil => trivial
  | cons next p =>
    cases next with
    | literal d =>
      rw [pairMeets]
      split
      · trivial
      · rename_i hd
        obtain ⟨hblank, hdigit⟩ : Text.isBlank d = false ∧ d.isDigit = false := by simpa using hd
        rw [write_cons, writeItem, List.singleton_append, readItem_of_isPair hitem,
          Text.trimStart_eq_self_of_head hblank, readNumber?, takeDigits, hdigit]
        rfl
    | year =>
      rw [write_cons, writeItem, readItem_of_isPair hitem, trimStart_yearText]
      intro parts' rest hread
      obtain ⟨⟨n, left⟩, hnumber, ⟨⟩⟩ := Option.map_eq_some_iff.1 hread
      exact readNumber?_two_yearText hnumber
    | month | day | hour | minute | second =>
      exact ⟨List.suffix_cons _ p, _, write_cons _ p t ▸ readItem_pair hitem rfl parts (write p t)⟩
    | gap | fraction => trivial

/-- **What an item meets is so of every text of the pattern.** -/
theorem meet_holds (t : DateTime) (parts : Parts) (item : PatternItem) (p : Pattern) :
    (meet item p).Holds p t (readItem parts (write p t) item) := by
  cases item with
  | literal c => exact literalMeets_holds t parts c p
  | gap => exact gapMeets_holds t parts p
  | year => exact yearMeets_holds t parts p
  | fraction => trivial
  | month | day | hour | minute | second => exact pairMeets_holds rfl t parts p

/-- Nothing that begins with a digit is read. -/
def failsOnDigit : Pattern → Bool
  | [] => true
  | .literal c :: _ => !c.isDigit
  | _ => false

/-- **A pattern fails on every text of another one**: an item of it meets what it cannot read, or some of the text is left
over. -/
def clashes : Pattern → Pattern → Bool
  | [], p => !p.isEmpty
  | item :: q, p =>
    match meet item p with
    | .fails => true
    | .leaves p' => clashes q p'
    | .leavesDigit => failsOnDigit q
    | .unknown => false

theorem readParts_of_failsOnDigit {c : Char} (h : failsOnDigit q = true) (hc : c.isDigit = true) (parts : Parts)
    (cs : List Char) : readParts parts q (c :: cs) = none := by
  cases q with
  | nil => rfl
  | cons item q =>
    cases item with
    | literal d =>
      have hne : c ≠ d := by
        rintro rfl
        rw [failsOnDigit, hc] at h
        cases h
      simp only [readParts, readItem, if_neg hne]
    | _ => cases h

theorem writeItem_ne_nil (h : item = .fraction → t.time.fraction ≠ 0) : writeItem t item ≠ [] := by
  cases item with
  | year =>
    obtain ⟨c, cs, hcs, -⟩ := exists_yearText_cons t.date.year
    rw [writeItem, hcs]
    exact List.cons_ne_nil c cs
  | fraction =>
    rw [writeItem, fractionText, if_neg (h rfl)]
    split
    · exact List.cons_ne_nil _ _
    · split <;> exact List.cons_ne_nil _ _
  | month | day | hour | minute | second => exact padded_ne_nil _ _
  | literal c => exact List.cons_ne_nil c []
  | gap => exact List.cons_ne_nil ' ' []

/-- **Patterns that clash do so on every text**, but for a fraction that is not written. -/
theorem readParts_of_clashes (t : DateTime) : ∀ {q p : Pattern}, clashes q p = true →
    (.fraction ∈ p → t.time.fraction ≠ 0) → ∀ parts : Parts, readParts parts q (write p t) = none
  | [], [], h, _, _ => nomatch h
  | [], item :: p, _, hfraction, parts => by
    have hne : write (item :: p) t ≠ [] := by
      rw [write_cons]
      refine List.append_ne_nil_of_left_ne_nil (writeItem_ne_nil fun hitem => hfraction ?_) _
      rw [hitem]
      exact List.mem_cons_self
    rw [readParts, if_neg (by simpa using hne)]
  | item :: q, p, h, hfraction, parts => by
    have hmeet := meet_holds t parts item p
    rw [clashes] at h
    rw [readParts]
    cases hencounter : meet item p with
    | fails =>
      rw [hencounter] at hmeet
      rw [show readItem parts (write p t) item = none from hmeet]
    | leaves p' =>
      rw [hencounter] at h hmeet
      obtain ⟨hsuffix, parts', hread⟩ := hmeet
      rw [hread]
      exact readParts_of_clashes t h (fun hmem => hfraction (hsuffix.subset hmem)) parts'
    | leavesDigit =>
      rw [hencounter] at h hmeet
      cases hread : readItem parts (write p t) item with
      | none => rfl
      | some read =>
        obtain ⟨parts', rest⟩ := read
        obtain ⟨c, cs, rfl, hc⟩ := hmeet parts' rest hread
        exact readParts_of_failsOnDigit h hc parts' cs
    | unknown =>
      rw [hencounter] at h
      cases h

end Pattern
end QueryRows
