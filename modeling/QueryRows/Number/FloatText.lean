import QueryRows.Number.Shortest
/-!
# FloatText — doubles as text, and text as doubles

A `FloatLayout` says which magnitudes are written positionally, whether a whole number keeps a point and a zero,
and how a tie between two shortest forms is settled; `plain` is the layout of displayed values and `numeric` that
of number literals.  `readFloat` reads the nearest double of a decimal numeral.
-/
namespace QueryRows
namespace Number

/-- The decisions of a number format. -/
structure FloatLayout where
  /-- least exponent of the leading digit that is written positionally -/
  least : Int
  /-- greatest exponent of the leading digit that is written positionally -/
  greatest : Int
  /-- a whole number written positionally ends in `.0` -/
  pointZero : Bool
  /-- which of two equally near shortest forms is written -/
  tie : Tie

/-- **Displayed floats are positional throughout** and whole numbers carry no point. -/
def FloatLayout.plain : FloatLayout := ⟨-400, 400, false, .away⟩

/-- **Number literals are positional from `1e-5` up to `1e16`**, whole numbers end in `.0`, and an exponent has a
sign. -/
def FloatLayout.numeric : FloatLayout := ⟨-5, 15, true, .toEven⟩

def zeros (n : Nat) : List Char := List.replicate n '0'

/-- The positional form of digits whose leading digit has exponent `e`. -/
def positional (pointZero : Bool) (ds : List Char) (e : Int) : List Char :=
  if e < 0 then '0' :: '.' :: zeros (-e - 1).toNat ++ ds
  else
    let whole := e.toNat + 1
    if whole < ds.length then ds.take whole ++ '.' :: ds.drop whole
    else ds ++ zeros (whole - ds.length) ++ if pointZero then ['.', '0'] else []

def exponential (ds : List Char) (e : Int) : List Char :=
  let mantissa := match ds with
    | d :: r@(_ :: _) => d :: '.' :: r
    | ds => ds
  mantissa ++ 'e' :: (if e < 0 then '-' else '+') :: digits e.natAbs

def FloatLayout.magnitude (l : FloatLayout) (bits : UInt64) : List Char :=
  let b := Binary.ofBits bits
  if b.significand == 0 then if l.pointZero then ['0', '.', '0'] else ['0']
  else
    let s := b.shortest l.tie
    let ds := digits s.digits
    let e := s.exponent + ds.length - 1
    if l.least ≤ e && e ≤ l.greatest then positional l.pointZero ds e else exponential ds e

def signBit (x : Float) : Bool := x.toBits >>> 63 == 1

/-- The text of a finite double, sign included. -/
def FloatLayout.finite (l : FloatLayout) (x : Float) : String :=
  let text := l.magnitude x.toBits
  String.ofList (if signBit x then '-' :: text else text)

/-- **The displayed text of a double.** -/
def floatText (x : Float) : String :=
  if x.isNaN then "NaN"
  else if x.isInf then if signBit x then "-inf" else "inf"
  else FloatLayout.plain.finite x

/-- Why a text is no float. -/
inductive FloatFault where
  | empty
  | invalid
deriving DecidableEq, Repr

def FloatFault.message : FloatFault → String
  | .empty => "cannot parse float from empty string"
  | .invalid => "invalid float literal"

/-- **The double nearest to `digits * 10 ^ exponent`.**  Magnitudes far outside the range of doubles are settled
without computing the power. -/
def nearestFloat (digits : Nat) (exponent : Int) : Float :=
  if digits == 0 then 0.0
  else
    let leading := exponent + (Number.digits digits).length
    if leading > 400 then 1.0 / 0.0
    else if leading < -400 then 0.0
    else Float.ofScientific digits (exponent < 0) exponent.natAbs

/-- The leading digits of a text, and what follows them. -/
def spanDigits (cs : List Char) : List Char × List Char := (cs.takeWhile Char.isDigit, cs.dropWhile Char.isDigit)

/-- An exponent mark, an optional sign and at least one digit, and nothing after them; no exponent at all is
zero. -/
def readExponent? : List Char → Option Int
  | [] => some 0
  | c :: cs =>
    if c = 'e' || c = 'E' then
      let (negative, ds) := match cs with
        | '-' :: r => (true, r)
        | '+' :: r => (false, r)
        | r => (false, r)
      if ds.isEmpty || !ds.all Char.isDigit then none
      else
        let n := (digitsValue ds : Int)
        some (if negative then -n else n)
    else none

/-- A numeral without a sign: digits with at most one point, at least one digit in all, and an optional
exponent. -/
def readMagnitude? (cs : List Char) : Option Float :=
  let (whole, rest) := spanDigits cs
  let (fraction, tail) := match rest with
    | '.' :: r => spanDigits r
    | r => ([], r)
  if whole.isEmpty && fraction.isEmpty then none
  else (readExponent? tail).map fun e => nearestFloat (digitsValue (whole ++ fraction)) (e - fraction.length)

/-- A magnitude that is no numeral, by its name in any case. -/
def namedMagnitude? (cs : List Char) : Option Float :=
  let name := String.ofList (cs.map Char.toLower)
  if name = "inf" || name = "infinity" then some (1.0 / 0.0)
  else if name = "nan" then some (0.0 / 0.0)
  else none

/-- **Reads a double**: an optional sign, then a numeral or the name of an infinity or of not-a-number. -/
def readFloat : List Char → Except FloatFault Float
  | [] => .error .empty
  | c :: cs =>
    let (negative, body) := if c = '-' then (true, cs) else if c = '+' then (false, cs) else (false, c :: cs)
    match (readMagnitude? body).or (namedMagnitude? body) with
    | some x => .ok (if negative then -x else x)
    | none => .error .invalid

end Number
end QueryRows
