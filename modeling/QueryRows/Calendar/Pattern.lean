import QueryRows.Calendar
import QueryRows.Text.Blank
/-!
# Pattern — how dates and times are written and read

A pattern is a list of items.  Writing a datetime by a pattern pads every number; reading is more lenient: blanks
before a number are skipped, a number may have fewer digits, and a signed year any number of them.
-/
namespace QueryRows

/-- One item of a pattern. -/
inductive PatternItem where
  | year
  | month
  | day
  | hour
  | minute
  | second
  /-- the fraction of the second, with its point; may be absent -/
  | fraction
  | literal (c : Char)
  /-- a space when written, any run of blanks when read -/
  | gap
deriving DecidableEq

/-- How a date or time is laid out. -/
abbrev Pattern := List PatternItem

namespace Pattern

open Number (digits padded digitsValue)

/-! ### Writing -/

/-- A year has four digits at least, and a sign when it is outside 0 to 9999. -/
def yearText (y : Int) : List Char :=
  if 0 ≤ y && y ≤ 9999 then padded 4 y.natAbs
  else (if y < 0 then '-' else '+') :: padded 4 y.natAbs

/-- A fraction has no digits when it is zero, and else 3, 6 or 9, the fewest that are exact. -/
def fractionText (fraction : Nat) : List Char :=
  if fraction = 0 then []
  else if fraction % 10 ^ 6 = 0 then '.' :: padded 3 (fraction / 10 ^ 6)
  else if fraction % 10 ^ 3 = 0 then '.' :: padded 6 (fraction / 10 ^ 3)
  else '.' :: padded 9 fraction

def writeItem (t : DateTime) : PatternItem → List Char
  | .year => yearText t.date.year
  | .month => padded 2 t.date.month
  | .day => padded 2 t.date.day
  | .hour => padded 2 t.time.hour
  | .minute => padded 2 t.time.minute
  | .second => padded 2 t.time.shownSecond
  | .fraction => fractionText t.time.fraction
  | .literal c => [c]
  | .gap => [' ']

/-- **A datetime written by a pattern.** -/
def write (p : Pattern) (t : DateTime) : List Char := p.flatMap (writeItem t)

/-! ### Reading -/

/-- The numbers read so far. -/
structure Parts where
  year : Int := 0
  month : Nat := 0
  day : Nat := 0
  hour : Nat := 0
  minute : Nat := 0
  second : Nat := 0
  fraction : Nat := 0

/-- At most `width` leading digits, and what follows them. -/
def takeDigits : Nat → List Char → List Char × List Char
  | 0, cs => ([], cs)
  | _ + 1, [] => ([], [])
  | width + 1, c :: cs =>
    if c.isDigit then
      let (ds, rest) := takeDigits width cs
      (c :: ds, rest)
    else ([], c :: cs)

/-- A number of at least one and at most `width` digits. -/
def readNumber? (width : Nat) (cs : List Char) : Option (Nat × List Char) :=
  match takeDigits width cs with
  | ([], _) => none
  | (ds, rest) => some (digitsValue ds, rest)

/-- A year: up to four digits, or a sign and any number of digits. -/
def readYear? : List Char → Option (Int × List Char)
  | '-' :: cs => (readNumber? cs.length cs).map fun (n, rest) => (-(n : Int), rest)
  | '+' :: cs => (readNumber? cs.length cs).map fun (n, rest) => ((n : Int), rest)
  | cs => (readNumber? 4 cs).map fun (n, rest) => ((n : Int), rest)

/-- A fraction: nothing, or a point and at least one digit, of which the first nine count. -/
def readFraction? : List Char → Option (Nat × List Char)
  | '.' :: cs =>
    match takeDigits 9 cs with
    | ([], _) => none
    | (ds, rest) => some (digitsValue ds * 10 ^ (9 - ds.length), rest.dropWhile Char.isDigit)
  | cs => some (0, cs)

def readItem (parts : Parts) (cs : List Char) : PatternItem → Option (Parts × List Char)
  | .year => (readYear? (Text.trimStart cs)).map fun (n, r) => ({ parts with year := n }, r)
  | .month => (readNumber? 2 (Text.trimStart cs)).map fun (n, r) => ({ parts with month := n }, r)
  | .day => (readNumber? 2 (Text.trimStart cs)).map fun (n, r) => ({ parts with day := n }, r)
  | .hour => (readNumber? 2 (Text.trimStart cs)).map fun (n, r) => ({ parts with hour := n }, r)
  | .minute => (readNumber? 2 (Text.trimStart cs)).map fun (n, r) => ({ parts with minute := n }, r)
  | .second => (readNumber? 2 (Text.trimStart cs)).map fun (n, r) => ({ parts with second := n }, r)
  | .fraction => (readFraction? cs).map fun (n, r) => ({ parts with fraction := n }, r)
  | .literal c =>
    match cs with
    | c' :: r => if c' = c then some (parts, r) else none
    | [] => none
  | .gap => some (parts, Text.trimStart cs)

/-- Reads the items one after the other; nothing may be left over. -/
def readParts (parts : Parts) : Pattern → List Char → Option Parts
  | [], cs => if cs.isEmpty then some parts else none
  | item :: p, cs =>
    match readItem parts cs item with
    | some (parts', rest) => readParts parts' p rest
    | none => none

/-- **Reads a date by a pattern.** -/
def readDate? (p : Pattern) (cs : List Char) : Option Date :=
  (readParts {} p cs).bind fun q => Date.ofParts? q.year q.month q.day

/-- **Reads a datetime by a pattern**; a pattern without seconds reads second zero. -/
def readDateTime? (p : Pattern) (cs : List Char) : Option DateTime := do
  let q ← readParts {} p cs
  let d ← Date.ofParts? q.year q.month q.day
  let t ← TimeOfDay.ofParts? q.hour q.minute q.second q.fraction
  some ⟨d, t⟩

/-! ### The patterns in use -/

/-- Year, month and day, with a separator. -/
def yearFirst (sep : Char) : Pattern := [.year, .literal sep, .month, .literal sep, .day]

/-- Day, month and year, with a separator. -/
def dayFirst (sep : Char) : Pattern := [.day, .literal sep, .month, .literal sep, .year]

/-- Month, day and year, with a separator. -/
def monthFirst (sep : Char) : Pattern := [.month, .literal sep, .day, .literal sep, .year]

def minutes : Pattern := [.hour, .literal ':', .minute]

/-- Hours, minutes and seconds. -/
def seconds : Pattern := minutes ++ [.literal ':', .second]

/-- Hours, minutes, seconds and their fraction. -/
def fractions : Pattern := seconds ++ [.fraction]

def date : Pattern := yearFirst '-'

/-- How datetimes are displayed: without the fraction. -/
def dateTime : Pattern := date ++ .gap :: seconds

def dateTimeInFull : Pattern := date ++ .literal 'T' :: fractions

/-- **The patterns of dates, in the order they are tried.** -/
def dates : List Pattern := [date, dayFirst '/', monthFirst '/', yearFirst '/', dayFirst '-']

/-- **The patterns of datetimes, in the order they are tried.** -/
def dateTimes : List Pattern :=
  [ date ++ .gap :: seconds,
    date ++ .literal 'T' :: seconds,
    date ++ .literal 'T' :: fractions,
    date ++ .gap :: fractions,
    dayFirst '/' ++ .gap :: seconds,
    monthFirst '/' ++ .gap :: seconds,
    date ++ .gap :: minutes,
    date ++ .literal 'T' :: minutes ]

end Pattern

/-- **Reads a datetime**: the text without the blanks around it and without trailing `Z`s, by the first pattern
that fits. -/
def DateTime.read? (text : List Char) : Option DateTime :=
  let body := Text.dropEndWhile (· == 'Z') (Text.trim text)
  Pattern.dateTimes.findSome? fun p => p.readDateTime? body

/-- **Reads a date**: the text without the blanks around it, by the first date pattern that fits, or else the date
of the datetime it writes. -/
def Date.read? (text : List Char) : Option Date :=
  let body := Text.trim text
  (Pattern.dates.findSome? fun p => p.readDate? body).or ((DateTime.read? body).map DateTime.date)

def Date.text (d : Date) : String := String.ofList (Pattern.date.write d.atMidnight)

def DateTime.text (t : DateTime) : String := String.ofList (Pattern.dateTime.write t)

def DateTime.fullText (t : DateTime) : String := String.ofList (Pattern.dateTimeInFull.write t)

end QueryRows
