import QueryRows.Number.FloatText
/-!
# Decimal — decimal numbers of 96 bits

A decimal is a sign, a mantissa below `2 ^ 96` and a scale of at most 28 places.  It keeps its scale and the sign
of its zero when written; two decimals are the same number when they agree as fractions.
-/
namespace QueryRows
namespace Number

/-- `± mantissa / 10 ^ scale`. -/
structure Decimal where
  negative : Bool
  mantissa : Nat
  scale : Nat
  mantissa_lt : mantissa < 2 ^ 96
  scale_le : scale ≤ 28
deriving DecidableEq

/-- The decimal with these parts, if they fit. -/
def Decimal.ofParts? (negative : Bool) (mantissa scale : Nat) : Option Decimal :=
  if h : mantissa < 2 ^ 96 ∧ scale ≤ 28 then some ⟨negative, mantissa, scale, h.1, h.2⟩ else none

/-- The whole number `n`, which fits into 64 bits. -/
def Decimal.ofInt64 (n : Int64) : Decimal :=
  ⟨n.toInt < 0, n.toInt.natAbs, 0, by
    have := n.toInt_lt; have := n.le_toInt; simp at *; omega, by decide⟩

/-- **The same number**: equal as fractions, whatever the scales and the sign of a zero. -/
def Decimal.same (a b : Decimal) : Bool :=
  a.mantissa * 10 ^ b.scale == b.mantissa * 10 ^ a.scale && (a.negative == b.negative || a.mantissa == 0)

/-- **The text of a decimal**: its sign, its whole part, and exactly `scale` places. -/
def Decimal.text (d : Decimal) : String :=
  let ds := padded (d.scale + 1) d.mantissa
  let whole := ds.take (ds.length - d.scale)
  let places := ds.drop (ds.length - d.scale)
  let body := if d.scale = 0 then whole else whole ++ '.' :: places
  String.ofList (if d.negative then '-' :: body else body)

/-! ### Reading decimals -/

/-- What a decimal numeral has come to: the digits read as a whole number, how many of them stand after the point,
whether the point has come, and whether any digit has. -/
structure DecimalReading where
  mantissa : Nat
  scale : Nat
  pointed : Bool
  started : Bool

/-- The decimal of a numeral; a zero that is read has no sign. -/
def Decimal.ofReading? (negative : Bool) (mantissa scale : Nat) : Option Decimal :=
  Decimal.ofParts? (negative && mantissa != 0) mantissa scale

def DecimalReading.finish (r : DecimalReading) (negative : Bool) : Option Decimal :=
  if r.started then Decimal.ofReading? negative r.mantissa r.scale else none

/-- **The numeral is cut off before `next`**, which rounds it half up; what follows is not looked at. -/
def DecimalReading.roundOff (r : DecimalReading) (negative : Bool) (next : Char) : Option Decimal :=
  if next.isDigit || next = '_' then
    if next.isDigit && digitValue next ≥ 5 then
      if r.mantissa + 1 < 2 ^ 96 then Decimal.ofReading? negative (r.mantissa + 1) r.scale
      else if r.scale = 0 then none
      else Decimal.ofReading? negative ((r.mantissa + 5) / 10) (r.scale - 1)
    else Decimal.ofReading? negative r.mantissa r.scale
  else none

/-- **Reads on in a decimal numeral.**  A digit that would take the mantissa past 96 bits, or any character after
the 28th place, rounds the numeral off; before the point too many digits are no decimal. -/
def DecimalReading.read (r : DecimalReading) (negative : Bool) : List Char → Option Decimal
  | [] => r.finish negative
  | c :: cs =>
    if r.pointed && 28 ≤ r.scale then r.roundOff negative c
    else if c.isDigit then
      let m := r.mantissa * 10 + digitValue c
      if m < 2 ^ 96 then
        read ⟨m, if r.pointed then r.scale + 1 else 0, r.pointed, true⟩ negative cs
      else if r.pointed then r.roundOff negative c
      else none
    else if c = '.' && !r.pointed then read { r with pointed := true } negative cs
    else if c = '_' && r.started then read r negative cs
    else none

/-- **Reads a decimal**: an optional sign, then digits with at most one point; an underscore may follow a
digit. -/
def Decimal.read? (cs : List Char) : Option Decimal :=
  let start : DecimalReading := ⟨0, 0, false, false⟩
  match cs with
  | '-' :: r => start.read true r
  | '+' :: r => start.read false r
  | r => start.read false r

/-- A decimal and a power of ten: a negative power adds places, a positive one takes places away or, where there
are too few, adds zeros to the whole number. -/
def Decimal.scaled? (d : Decimal) (negativePower : Bool) (power : Nat) : Option Decimal :=
  if negativePower then Decimal.ofParts? d.negative d.mantissa (d.scale + power)
  else if power ≤ d.scale then Decimal.ofParts? d.negative d.mantissa (d.scale - power)
  else if power ≤ 28 then
    Decimal.ofReading? d.negative (d.mantissa * 10 ^ (power - d.scale)) 0
  else none

/-- Reads the power of ten after an exponent mark: an optional minus sign, then a number of 32 bits. -/
def readPower? : List Char → Option (Bool × Nat)
  | '-' :: cs => (readNatural? (2 ^ 32 - 1) cs).map fun n => (true, n)
  | cs => (readNatural? (2 ^ 32 - 1) cs).map fun n => (false, n)

/-- Reads a decimal in scientific form: a decimal, an exponent mark and a power of ten. -/
def Decimal.readScientific? (cs : List Char) : Option Decimal :=
  let isMark : Char → Bool := fun c => c = 'e' || c = 'E'
  match cs.dropWhile (!isMark ·) with
  | [] => none
  | _ :: power => do
    let d ← Decimal.read? (cs.takeWhile (!isMark ·))
    let (negative, n) ← readPower? power
    d.scaled? negative n

/-! ### Decimals and doubles -/

/-- A mantissa on its way from a double to a decimal: `mantissa * 10 ^ power`. -/
structure Register where
  mantissa : Nat
  power : Int

/-- `2 ^ -k` is taken into the register: an even mantissa is halved, an odd one is multiplied by 5 while 96 bits
suffice and else halved with loss. -/
def Register.halve : Nat → Register → Register
  | 0, r => r
  | k + 1, r =>
    if r.mantissa % 2 == 0 then halve k ⟨r.mantissa / 2, r.power + 1⟩
    else if r.mantissa * 5 < 2 ^ 96 then halve k ⟨r.mantissa * 5, r.power⟩
    else halve k ⟨r.mantissa / 2, r.power + 1⟩

/-- `2 ^ k` is taken into the register: the mantissa is doubled while 96 bits suffice and else divided by 5; too
large a number is given up. -/
def Register.double? : Nat → Register → Option Register
  | 0, r => some r
  | k + 1, r =>
    if r.mantissa < 2 ^ 95 then double? k ⟨r.mantissa * 2, r.power - 1⟩
    else if r.power * 2 > (k + 1 : Nat) then none
    else double? k ⟨r.mantissa / 5, r.power⟩

/-- A positive power of ten is multiplied out, if 96 bits suffice. -/
def Register.raise? : Nat → Register → Option Register
  | 0, r => some r
  | k + 1, r => if r.mantissa * 10 < 2 ^ 96 then raise? k ⟨r.mantissa * 10, r.power - 1⟩ else none

/-- One place less, rounded half up. -/
def Register.drop (r : Register) : Register :=
  ⟨r.mantissa / 10 + if r.mantissa % 10 ≥ 5 then 1 else 0, r.power + 1⟩

/-- Places past the 28th are dropped; a mantissa that vanishes on the way is zero. -/
def Register.limitPlaces : Nat → Register → Register
  | 0, r => r
  | k + 1, r => if r.mantissa / 10 == 0 then ⟨0, 0⟩ else limitPlaces k r.drop

/-- Places are dropped while the mantissa has more than the 52 bits that a double vouches for. -/
def Register.limitBits : Nat → Register → Register
  | 0, r => r
  | k + 1, r => if r.mantissa ≥ 2 ^ 52 then limitBits k r.drop else r

def Register.strip : Nat → Register → Register
  | 0, r => r
  | k + 1, r => if r.mantissa % 10 == 0 then strip k ⟨r.mantissa / 10, r.power + 1⟩ else r

/-- **A double as a decimal**, with about 15 significant digits and without trailing zeros. -/
def Decimal.ofFloat? (x : Float) : Option Decimal :=
  if x.isNaN || x.isInf then none
  else
    let b := Binary.ofBits x.toBits
    if b.significand == 0 then Decimal.ofParts? (signBit x) 0 0
    else do
      let r := Register.halve (-b.exponent).toNat ⟨b.significand, b.exponent⟩
      let r ← r.double? b.exponent.toNat
      let r ← r.raise? r.power.toNat
      let r := r.limitPlaces (-r.power - 28).toNat
      let r := r.limitBits (-r.power).toNat
      let r := r.strip (-r.power).toNat
      Decimal.ofParts? (signBit x) r.mantissa (-r.power).toNat

/-- **A decimal as a double**: the whole part and the fraction are taken over separately, and the sum is rounded
to the decimal's places. -/
def Decimal.toFloat (d : Decimal) : Float :=
  let unit := Float.ofScientific 1 false d.scale
  let whole := Float.ofNat (d.mantissa / 10 ^ d.scale)
  let fraction := Float.ofNat (d.mantissa % 10 ^ d.scale) / unit
  let x := if d.scale == 0 || fraction == 0.0 then whole else ((whole + fraction) * unit).round / unit
  if d.negative then -x else x

end Number
end QueryRows
