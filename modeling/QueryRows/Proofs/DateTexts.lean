import QueryRows.Proofs.PatternTexts
import QueryRows.Value
/-!
# DateTexts — the texts of dates and datetimes, read again

No pattern of dates or datetimes reads what one tried after it writes, but for day-first patterns, which read month-first
texts with month and day exchanged (`inOrder_dates`, `inOrder_dateTimes`).  So every date and datetime is read back from
each of its texts, as far as the text has it and unless a month-first text may be read day-first (`dates_readBack`).  A
text cannot tell a leap second in the middle of a minute from the second after it, as which it is read
(`leapSecond_not_readBack`).
-/
namespace QueryRows

open Number

theorem Date.ofParts?_self (d : Date) : Date.ofParts? d.year d.month d.day = some d := dif_pos d.valid

theorem isCalendarDay_exchanged (d : Date) (h : d.day ≤ 12) : isCalendarDay d.year d.day d.month = true := by
  obtain ⟨hlow, hhigh, hmonth, hmonth', hday, -⟩ := isCalendarDay_iff.1 d.valid
  -- every month has more days than a year has months
  have hdays := (daysInMonth_bounds d.year d.day).1
  exact isCalendarDay_iff.2 ⟨hlow, hhigh, hday, h, hmonth, by omega⟩

/-- **The date with month and day exchanged**, which the calendar has up to the twelfth day. -/
def Date.exchanged (d : Date) (h : d.day ≤ 12) : Date := ⟨d.year, d.day, d.month, isCalendarDay_exchanged d h⟩

theorem Date.ofParts?_exchanged (d : Date) :
    Date.ofParts? d.year d.day d.month = if h : d.day ≤ 12 then some (d.exchanged h) else none := by
  split
  · rename_i h
    exact (d.exchanged h).ofParts?_self
  · rename_i h
    refine dif_neg fun hvalid => h ?_
    obtain ⟨-, -, -, hmonth, -⟩ := isCalendarDay_iff.1 hvalid
    exact hmonth

namespace TimeOfDay

/-- **The time that is shown**: a leap second that ends no minute is shown as the second after it. -/
def shown (t : TimeOfDay) : TimeOfDay where
  hour := t.hour
  minute := t.minute
  second := min t.shownSecond 59
  nanosecond := t.shownSecond / 60 * 10 ^ 9 + t.fraction
  valid := by
    obtain ⟨hhour, hminute, -, -⟩ := t.valid
    have hsecond := t.shownSecond_le
    have hfraction := t.fraction_lt
    exact ⟨hhour, hminute, by omega, by omega⟩

/-- **A time is shown as it is unless it is in a leap second that ends no minute.** -/
theorem shown_eq_self_iff {t : TimeOfDay} : t.shown = t ↔ (10 ^ 9 ≤ t.nanosecond → t.second = 59) := by
  obtain ⟨hour, minute, second, nanosecond, hhour, hminute, hsecond, hnanosecond⟩ := t
  simp only [shown, mk.injEq, true_and, shownSecond, fraction]
  omega

@[simp] theorem fraction_shown (t : TimeOfDay) : t.shown.fraction = t.fraction := by
  have hfraction := t.fraction_lt
  show (t.shownSecond / 60 * 10 ^ 9 + t.fraction) % 10 ^ 9 = t.fraction
  omega

/-- The time without its fraction of a second; a leap second stays one. -/
def wholeSecond (t : TimeOfDay) : TimeOfDay where
  hour := t.hour
  minute := t.minute
  second := t.second
  nanosecond := t.nanosecond / 10 ^ 9 * 10 ^ 9
  valid := by
    obtain ⟨hhour, hminute, hsecond, hnanosecond⟩ := t.valid
    exact ⟨hhour, hminute, hsecond, by omega⟩

end TimeOfDay

namespace Pattern

variable {p : Pattern} {t : DateTime}

/-! ### Month and day exchanged -/

def exchangeItem : PatternItem → PatternItem
  | .month => .day
  | .day => .month
  | item => item

/-- The pattern with month and day exchanged. -/
def exchanged (p : Pattern) : Pattern := p.map exchangeItem

def Parts.exchanged (parts : Parts) : Parts := { parts with month := parts.day, day := parts.month }

theorem readItem_exchangeItem (parts : Parts) (cs : List Char) (item : PatternItem) :
    readItem parts.exchanged cs (exchangeItem item) =
      (readItem parts cs item).map fun read => (read.1.exchanged, read.2) := by
  cases item with
  | literal c =>
    cases cs with
    | nil => rfl
    | cons d cs =>
      have hitem : exchangeItem (.literal c) = .literal c := rfl
      rw [hitem, readItem, readItem]
      split <;> rfl
  | gap => rfl
  | _ =>
    simp only [exchangeItem, readItem, Option.map_map]
    rfl

/-- **A pattern with month and day exchanged reads the same numbers**, month and day exchanged. -/
theorem readParts_exchanged : ∀ (p : Pattern) (parts : Parts) (cs : List Char),
    readParts parts.exchanged (exchanged p) cs = (readParts parts p cs).map Parts.exchanged
  | [], parts, cs => by
    rw [exchanged, List.map_nil, readParts, readParts]
    split <;> rfl
  | item :: p, parts, cs => by
    rw [exchanged, List.map_cons, readParts, readParts, readItem_exchangeItem]
    cases readItem parts cs item with
    | none => rfl
    | some read => exact readParts_exchanged p read.1 read.2

/-! ### The first pattern that reads a text -/

/-- A text that no pattern before this one reads is what this one reads. -/
theorem findSome?_of_takeWhile {α : Type} {f : Pattern → Option α} {a : α} (hread : f p = some a) :
    ∀ {ps : List Pattern}, p ∈ ps → (∀ q ∈ ps.takeWhile (· != p), f q = none) → ps.findSome? f = some a
  | q :: ps, hmem, hbefore => by
    by_cases hq : q = p
    · rw [List.findSome?_cons, hq, hread]
    · rw [List.takeWhile_cons_of_pos (by simpa using hq), List.forall_mem_cons] at hbefore
      rw [List.findSome?_cons, hbefore.1]
      exact findSome?_of_takeWhile hread (List.mem_of_ne_of_mem (Ne.symm hq) hmem) hbefore.2

/-- **Patterns that are tried in this order do not get in each other's way**: each reads back what it writes, and none
reads what a later one writes, except that a month-first text may be read by the day-first pattern alike. -/
structure InOrder (ps : List Pattern) : Prop where
  spaced : ∀ p ∈ ps, spaced p = true
  before : ∀ p ∈ ps, ∀ q ∈ ps.takeWhile (· != p), clashes q p = true ∨ p.head? = some .month ∧ q = exchanged p
  dayFirst : ∀ p ∈ ps, p.head? = some .month →
    exchanged p ∈ ps ∧ ∀ q ∈ ps.takeWhile (· != exchanged p), clashes q p = true

theorem inOrder_dates : InOrder dates := ⟨by decide, by decide, by decide⟩

theorem inOrder_dateTimes : InOrder dateTimes := ⟨by decide, by decide, by decide⟩

/-! ### What becomes of a date and a time -/

/-- **The date that a text is read as**: its own, with month and day exchanged if the text is month-first and the day
can be a month. -/
def dayRead (p : Pattern) (d : Date) : Date :=
  if h : p.head? = some .month ∧ d.day ≤ 12 then d.exchanged h.2 else d

/-- **The time that a pattern keeps**: without its seconds or their fraction, where the pattern has none. -/
def timeKept (p : Pattern) (t : TimeOfDay) : TimeOfDay where
  hour := t.hour
  minute := t.minute
  second := if .second ∈ p then t.second else 0
  nanosecond := (if .second ∈ p then t.wholeSecond.nanosecond else 0) + if .fraction ∈ p then t.fraction else 0
  valid := by
    obtain ⟨hhour, hminute, hsecond, hnanosecond⟩ := t.valid
    have hwhole : t.wholeSecond.nanosecond = t.nanosecond / 10 ^ 9 * 10 ^ 9 := rfl
    have hfraction := t.fraction_lt
    exact ⟨hhour, hminute, by split <;> omega, by split <;> split <;> omega⟩

/-- The parts that a pattern writes are those of the time that it keeps. -/
theorem ofParts?_timeKept (p : Pattern) (t : TimeOfDay) :
    TimeOfDay.ofParts? t.hour t.minute (if .second ∈ p then t.shownSecond else 0)
      (if .fraction ∈ p then t.fraction else 0) = some (p.timeKept t.shown) := by
  have hsecond := t.shownSecond_le
  have hfraction := t.fraction_lt
  have hshown : t.shown.second = min t.shownSecond 59 := rfl
  have hwhole : t.shown.wholeSecond.nanosecond = t.shownSecond / 60 * 10 ^ 9 := by
    show (t.shownSecond / 60 * 10 ^ 9 + t.fraction) / 10 ^ 9 * 10 ^ 9 = _
    omega
  have hparts : t.hour < 24 ∧ t.minute < 60 ∧ (if .second ∈ p then t.shownSecond else 0) ≤ 60 ∧
      (if .fraction ∈ p then t.fraction else 0) < 10 ^ 9 :=
    ⟨t.valid.1, t.valid.2.1, by split <;> omega, by split <;> omega⟩
  rw [TimeOfDay.ofParts?, dif_pos hparts]
  simp only [timeKept, hshown, hwhole, TimeOfDay.fraction_shown, Option.some.injEq, TimeOfDay.mk.injEq]
  by_cases h : .second ∈ p <;> simp [h, TimeOfDay.shown]

/-- What is displayed of a time is its whole second. -/
theorem timeKept_dateTime (t : TimeOfDay) : dateTime.timeKept t = t.wholeSecond := by
  have hsecond : .second ∈ dateTime := by decide
  have hfraction : .fraction ∉ dateTime := by decide
  simp [timeKept, TimeOfDay.wholeSecond, hsecond, hfraction]

/-- **What a text is read as.**  Where the numbers are made something of by way of their date, it is what becomes of the
date that is read. -/
theorem findSome?_write {α : Type} {make : Parts → Option α} {g : Date → α} {ps : List Pattern} (hps : InOrder ps)
    (hp : p ∈ ps) (hfraction : .fraction ∈ p → t.time.fraction ≠ 0)
    (hown : make (Parts.notes t {} p) = some (g t.date))
    (hexchanged : make (Parts.notes t {} p).exchanged =
      (Date.ofParts? t.date.year t.date.day t.date.month).map g) :
    ps.findSome? (fun q => (readParts {} q (write p t)).bind make) = some (g (p.dayRead t.date)) := by
  have hread : readParts {} p (write p t) = some (Parts.notes t {} p) := readParts_write t (hps.spaced p hp) {}
  have hclash {q : Pattern} (h : clashes q p = true) : (readParts {} q (write p t)).bind make = none := by
    rw [readParts_of_clashes t h hfraction, Option.bind_none]
  have hdayFirst : (readParts {} (exchanged p) (write p t)).bind make =
      (Date.ofParts? t.date.year t.date.day t.date.month).map g := by
    have h := readParts_exchanged p {} (write p t)
    rw [hread] at h
    exact (congrArg (Option.bind · make) h).trans hexchanged
  rw [Date.ofParts?_exchanged] at hdayFirst
  by_cases h : p.head? = some .month ∧ t.date.day ≤ 12
  · rw [dif_pos h.2] at hdayFirst
    rw [dayRead, dif_pos h]
    obtain ⟨hmem, hbefore⟩ := hps.dayFirst p hp h.1
    exact findSome?_of_takeWhile hdayFirst hmem fun q hq => hclash (hbefore q hq)
  · rw [dayRead, dif_neg h]
    refine findSome?_of_takeWhile (by rw [hread, Option.bind_some, hown]) hp fun q hq => ?_
    rcases hps.before p hp q hq with hq | ⟨hmonth, rfl⟩
    · exact hclash hq
    · rw [hdayFirst, dif_neg fun hday => h ⟨hmonth, hday⟩, Option.map_none]

theorem notes_of_mem_dates (t : DateTime) : ∀ p ∈ dates,
    (Parts.notes t {} p).year = t.date.year ∧ (Parts.notes t {} p).month = t.date.month ∧
      (Parts.notes t {} p).day = t.date.day := by
  simp only [dates, List.forall_mem_cons]
  exact ⟨⟨rfl, rfl, rfl⟩, ⟨rfl, rfl, rfl⟩, ⟨rfl, rfl, rfl⟩, ⟨rfl, rfl, rfl⟩, ⟨rfl, rfl, rfl⟩, fun _ h => nomatch h⟩

theorem notes_of_mem_dateTimes (t : DateTime) : ∀ p ∈ dateTimes,
    Parts.notes t {} p = ⟨t.date.year, t.date.month, t.date.day, t.time.hour, t.time.minute,
      if .second ∈ p then t.time.shownSecond else 0, if .fraction ∈ p then t.time.fraction else 0⟩ := by
  simp only [dateTimes, List.forall_mem_cons]
  exact ⟨rfl, rfl, rfl, rfl, rfl, rfl, rfl, rfl, fun _ h => nomatch h⟩

/-! ### Texts without blanks around them -/

/-- The last item of a pattern writes digits at its end. -/
def endsInDigit (p : Pattern) : Bool :=
  p.getLast?.any fun item => isPair item || item == .year || item == .fraction

/-- Numbers end in digits that are padded to a width. -/
theorem exists_writeItem_padded {item : PatternItem}
    (hitem : (isPair item || item == .year || item == .fraction) = true)
    (hfraction : item = .fraction → t.time.fraction ≠ 0) :
    ∃ front width n, writeItem t item = front ++ padded width n := by
  cases item with
  | year =>
    rw [writeItem, yearText]
    split
    · exact ⟨[], _, _, rfl⟩
    · exact ⟨[_], _, _, rfl⟩
  | fraction =>
    rw [writeItem, fractionText, if_neg (hfraction rfl)]
    split
    · exact ⟨['.'], _, _, rfl⟩
    · split <;> exact ⟨['.'], _, _, rfl⟩
  | month | day | hour | minute | second => exact ⟨[], _, _, rfl⟩
  | literal | gap => cases hitem

theorem isDigit_getLast?_write (h : endsInDigit p = true) (hfraction : .fraction ∈ p → t.time.fraction ≠ 0) :
    ∀ c ∈ (write p t).getLast?, c.isDigit = true := by
  obtain ⟨item, hlast, hitem⟩ := (Option.any_eq_true _ _).1 h
  obtain ⟨p, rfl⟩ := List.getLast?_eq_some_iff.1 hlast
  obtain ⟨front, width, n, hwrite⟩ := exists_writeItem_padded hitem (t := t) fun hf =>
    hfraction (hf ▸ List.mem_append_right p List.mem_cons_self)
  have htext : write (p ++ [item]) t = write p t ++ front ++ padded width n := by
    rw [write, List.flatMap_append, List.flatMap_singleton, hwrite, ← List.append_assoc]
    rfl
  intro c hc
  rw [htext, List.getLast?_append_of_ne_nil _ (padded_ne_nil width n)] at hc
  exact isDigit_of_mem_padded (List.mem_of_getLast? hc)

/-- **Nothing is cut off a text that begins and ends in numbers.** -/
theorem trim_write (hbegin : endsBefore .gap p = true) (hend : endsInDigit p = true)
    (hfraction : .fraction ∈ p → t.time.fraction ≠ 0) : Text.trim (write p t) = write p t :=
  Text.trim_eq_self_of_ends (stopsBefore_write hbegin) fun c hc =>
    isBlank_of_isDigit (isDigit_getLast?_write hend hfraction c hc)

theorem dropEndWhile_write (hend : endsInDigit p = true) (hfraction : .fraction ∈ p → t.time.fraction ≠ 0) :
    Text.dropEndWhile (· == 'Z') (write p t) = write p t := by
  refine Text.dropEndWhile_eq_self_iff.2 fun c hc => ?_
  have hdigit := isDigit_getLast?_write hend hfraction c hc
  refine beq_eq_false_iff_ne.2 ?_
  rintro rfl
  cases hdigit

end Pattern

open Pattern

/-! ### Dates and datetimes -/

/-- **A date is read back from its texts.** -/
theorem Date.read?_write {p : Pattern} (hp : p ∈ dates) (t : DateTime) :
    Date.read? (p.write t) = some (p.dayRead t.date) := by
  have hends : ∀ p ∈ dates, endsBefore .gap p = true ∧ endsInDigit p = true ∧ .fraction ∉ p := by decide
  obtain ⟨hbegin, hend, hnone⟩ := hends p hp
  have hfraction : .fraction ∈ p → t.time.fraction ≠ 0 := fun h => absurd h hnone
  obtain ⟨hyear, hmonth, hday⟩ := notes_of_mem_dates t p hp
  have hread : dates.findSome? (fun q => q.readDate? (p.write t)) = some (p.dayRead t.date) := by
    refine findSome?_write (g := id) inOrder_dates hp hfraction ?_ ?_
    · simp only [hyear, hmonth, hday, Date.ofParts?_self, id]
    · simp only [Parts.exchanged, hyear, hmonth, hday, Option.map_id, id]
  rw [read?, trim_write hbegin hend hfraction, hread, Option.some_or]

/-- **A datetime is read back from its texts**, if no zero fraction goes unwritten. -/
theorem DateTime.read?_write_of_fraction {p : Pattern} (hp : p ∈ dateTimes) {t : DateTime}
    (hfraction : .fraction ∈ p → t.time.fraction ≠ 0) :
    DateTime.read? (p.write t) = some ⟨p.dayRead t.date, p.timeKept t.time.shown⟩ := by
  have hends : ∀ p ∈ dateTimes, endsBefore .gap p = true ∧ endsInDigit p = true := by decide
  obtain ⟨hbegin, hend⟩ := hends p hp
  have htime := p.ofParts?_timeKept t.time
  have hread : dateTimes.findSome? (fun q => q.readDateTime? (p.write t)) =
      some ⟨p.dayRead t.date, p.timeKept t.time.shown⟩ := by
    refine findSome?_write (g := fun d => (⟨d, p.timeKept t.time.shown⟩ : DateTime)) inOrder_dateTimes hp hfraction ?_ ?_
    · simp only [notes_of_mem_dateTimes t p hp, Date.ofParts?_self, htime, Option.bind_eq_bind, Option.bind_some]
    · simp only [Parts.exchanged, notes_of_mem_dateTimes t p hp, htime, Option.bind_eq_bind, Option.bind_some,
        Option.map_eq_bind, Function.comp_def]
  rw [read?, trim_write hbegin hend hfraction, dropEndWhile_write hend hfraction, hread]

/-- **A datetime is read back from its texts.** -/
theorem DateTime.read?_write {p : Pattern} (hp : p ∈ dateTimes) (t : DateTime) :
    DateTime.read? (p.write t) = some ⟨p.dayRead t.date, p.timeKept t.time.shown⟩ := by
  have hwithout : ∀ p ∈ dateTimes, .fraction ∈ p →
      ∃ q ∈ dateTimes, .fraction ∉ q ∧ q.head? = p.head? ∧ p = q ++ [.fraction] := by decide
  by_cases h : .fraction ∈ p ∧ t.time.fraction = 0
  · -- the text is that of the pattern without the fraction
    obtain ⟨hmem, hzero⟩ := h
    obtain ⟨q, hq, hnone, hhead, rfl⟩ := hwithout p hp hmem
    have htext : write (q ++ [.fraction]) t = q.write t := by
      simp [write, writeItem, fractionText, hzero]
    have hday : dayRead (q ++ [.fraction]) t.date = q.dayRead t.date := by
      simp only [dayRead, ← hhead]
    have hkept : timeKept (q ++ [.fraction]) t.time.shown = q.timeKept t.time.shown := by
      simp [timeKept, hzero]
    rw [htext, hday, hkept]
    exact read?_write_of_fraction hq fun hfraction => absurd hfraction hnone
  · exact read?_write_of_fraction hp fun hfraction hzero => h ⟨hfraction, hzero⟩

/-- **Dates and datetimes are read back from their texts.**  Every date from each of its five texts and every datetime
from each of its eight, as far as the text has it; only a month-first text whose day is at most 12 is read day-first, and
only a leap second that ends no minute is read as the second after it.  What is displayed of a date or datetime is read
back as well, for all years. -/
theorem dates_readBack :
    (∀ p ∈ dates, ∀ t : DateTime, Date.read? (p.write t) = some (p.dayRead t.date)) ∧
      (∀ p ∈ dateTimes, ∀ t : DateTime,
        DateTime.read? (p.write t) = some ⟨p.dayRead t.date, p.timeKept t.time.shown⟩) ∧
      (∀ t : TimeOfDay, t.shown = t ↔ (10 ^ 9 ≤ t.nanosecond → t.second = 59)) ∧
      (∀ d : Date, Date.read? (Value.date d).display.toList = some d) ∧
      ∀ t : DateTime, DateTime.read? (Value.datetime t).display.toList = some ⟨t.date, t.time.shown.wholeSecond⟩ := by
  refine ⟨fun p hp t => Date.read?_write hp t, fun p hp t => DateTime.read?_write hp t,
    fun t => TimeOfDay.shown_eq_self_iff, fun d => ?_, fun t => ?_⟩
  · rw [Value.display, Date.text, String.toList_ofList, Date.read?_write (by decide)]
    rfl
  · rw [Value.display, DateTime.text, String.toList_ofList, DateTime.read?_write (by decide), timeKept_dateTime]
    rfl

/-- A leap second on the fifth of March, 44 years before year 0: read day-first, it is on the third of May. -/
theorem dates_readBack_leapSecond :
    let t : DateTime := ⟨⟨-44, 3, 5, by decide⟩, ⟨23, 59, 59, 1250000000, by decide⟩⟩
    let p : Pattern := monthFirst '/' ++ .gap :: seconds
    p ∈ dateTimes ∧ p.write t = "03/05/-0044 23:59:60".toList ∧
      DateTime.read? (p.write t) = some ⟨⟨-44, 5, 3, by decide⟩, ⟨23, 59, 59, 1000000000, by decide⟩⟩ ∧
      dateTimeInFull ∈ dateTimes ∧ DateTime.read? (dateTimeInFull.write t) = some t ∧
      dayFirst '-' ∈ dates ∧ Date.read? ((dayFirst '-').write t) = some t.date := by
  intro t p
  have hp : p ∈ dateTimes := by decide
  have hfull : dateTimeInFull ∈ dateTimes := by decide
  have hday : dayFirst '-' ∈ dates := by decide
  have hread : DateTime.read? (p.write t) = some ⟨⟨-44, 5, 3, by decide⟩, ⟨23, 59, 59, 1000000000, by decide⟩⟩ :=
    (dates_readBack.2.1 p hp t).trans (by decide)
  have hread' : DateTime.read? (dateTimeInFull.write t) = some t :=
    (dates_readBack.2.1 dateTimeInFull hfull t).trans (by decide)
  exact ⟨hp, by decide, hread, hfull, hread', hday, dates_readBack.1 (dayFirst '-') hday t⟩

/-- **A leap second in the middle of a minute is not read back**: it is written as the second after it, in full and when
it is displayed, and is read as that second. -/
theorem leapSecond_not_readBack :
    let t : DateTime := ⟨⟨2015, 6, 30, by decide⟩, ⟨23, 56, 4, 1333333333, by decide⟩⟩
    dateTimeInFull ∈ dateTimes ∧ dateTimeInFull.write t = "2015-06-30T23:56:05.333333333".toList ∧
      DateTime.read? (dateTimeInFull.write t) = some ⟨t.date, ⟨23, 56, 5, 333333333, by decide⟩⟩ ∧
      DateTime.read? (dateTimeInFull.write t) ≠ some t ∧
      (Value.datetime t).display = "2015-06-30 23:56:05" ∧
      ∀ read, DateTime.read? (Value.datetime t).display.toList = some read → read.time.second ≠ t.time.second := by
  intro t
  have hmem : dateTimeInFull ∈ dateTimes := by decide
  have hfull : DateTime.read? (dateTimeInFull.write t) = some ⟨t.date, ⟨23, 56, 5, 333333333, by decide⟩⟩ :=
    (DateTime.read?_write hmem t).trans (by decide)
  have htext : dateTime.write t = "2015-06-30 23:56:05".toList := by decide
  refine ⟨hmem, by decide, hfull, ?_, ?_, fun read hread => ?_⟩
  · rw [hfull]
    decide
  · rw [Value.display, DateTime.text, htext, String.ofList_toList]
  · rw [Value.display, DateTime.text, String.toList_ofList, DateTime.read?_write (by decide)] at hread
    rw [← Option.some.inj hread]
    decide

end QueryRows
