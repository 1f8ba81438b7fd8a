import QueryRows.Number.Numeral
/-!
# Shortest — the fewest decimal digits that identify a double

A finite double stands for all reals that are rounded to it: the interval from halfway to the neighbour below to
halfway to the neighbour above, ends included exactly when its significand is even.  `shortest` looks for the
coarsest decimal grid with a point in that interval, by exact arithmetic on naturals, and takes the point nearest
to the double itself.
-/
namespace QueryRows
namespace Number

/-- A finite magnitude `significand * 2 ^ exponent`; `narrowBelow` says that the gap to the neighbour below is
half of the gap above. -/
structure Binary where
  significand : Nat
  exponent : Int
  narrowBelow : Bool

def Binary.ofBits (bits : UInt64) : Binary :=
  let n := bits.toNat
  let e : Nat := n / 2 ^ 52 % 2 ^ 11
  let f : Nat := n % 2 ^ 52
  if e == 0 then ⟨f, -1074, false⟩ else ⟨2 ^ 52 + f, (e : Int) - 1075, f == 0 && e > 1⟩

/-- `digits * 10 ^ exponent`. -/
structure Scientific where
  digits : Nat
  exponent : Int

/-- Which of two equally near grid points is taken. -/
inductive Tie where
  | toEven
  | away

/-- The ends of the interval, the value between them, and their common denominator. -/
structure Interval where
  low : Nat
  value : Nat
  high : Nat
  denominator : Nat
  closed : Bool

/-- **The reals that are rounded to a double.** -/
def Binary.interval (b : Binary) : Interval :=
  let up := 2 ^ b.exponent.toNat
  let down := 2 ^ (-b.exponent).toNat
  let m := 4 * b.significand
  { low := (m - if b.narrowBelow then 1 else 2) * up
    value := m * up
    high := (m + 2) * up
    denominator := 4 * down
    closed := b.significand % 2 == 0 }

/-- Some grid point `d * 10 ^ e` lies in the interval. -/
def Interval.holds (i : Interval) (d : Nat) (e : Int) : Bool :=
  let point := d * 10 ^ e.toNat * i.denominator
  let unit := 10 ^ (-e).toNat
  if i.closed then i.low * unit ≤ point && point ≤ i.high * unit
  else i.low * unit < point && point < i.high * unit

/-- The least `k` with the value below `10 ^ k`. -/
def Interval.magnitude (i : Interval) : Int :=
  if i.denominator ≤ i.value then ((digits (i.value / i.denominator)).length : Int)
  else 1 - ((digits ((i.denominator - 1) / i.value)).length : Int)

/-- **The point of the grid of step `10 ^ e` in the interval that is nearest to the value**, if one of the value's
two neighbours on that grid lies in the interval. -/
def Interval.nearest? (i : Interval) (tie : Tie) (e : Int) : Option Scientific :=
  let unit := 10 ^ (-e).toNat
  let step := 10 ^ e.toNat * i.denominator
  let below := i.value * unit / step
  let above := below + 1
  match i.holds below e, i.holds above e with
  | false, false => none
  | true, false => some ⟨below, e⟩
  | false, true => some ⟨above, e⟩
  | true, true =>
    let twice := 2 * (i.value * unit)
    let middle := (below + above) * step
    if twice < middle then some ⟨below, e⟩
    else if middle < twice then some ⟨above, e⟩
    else match tie with
      | .away => some ⟨above, e⟩
      | .toEven => if below % 2 == 0 then some ⟨below, e⟩ else some ⟨above, e⟩

/-- Trailing zeros moved into the exponent, at most `fuel` of them. -/
def Scientific.strip : Nat → Scientific → Scientific
  | 0, s => s
  | fuel + 1, s => if s.digits % 10 == 0 then strip fuel ⟨s.digits / 10, s.exponent + 1⟩ else s

/-- **The fewest digits that identify a magnitude that is not zero**, the nearest of those to it. -/
def Binary.shortest (tie : Tie) (b : Binary) : Scientific :=
  let i := b.interval
  let k := i.magnitude
  let found := (List.range 17).findSome? fun n : Nat => i.nearest? tie (k - ((n + 1 : Nat) : Int))
  (found.getD ⟨b.significand * 2 ^ b.exponent.toNat * 5 ^ (-b.exponent).toNat, min b.exponent 0⟩).strip 400

end Number
end QueryRows
