import QueryRows.Json
import QueryRows.Number.FloatText
/-!
# Numeral — JSON numbers

A number with neither point nor exponent that fits into 64 bits is whole.  Every other number is a double, computed
from its first digits, as many as 64 bits hold, and one division or multiplication by a power of ten; a result
past all doubles is no number.
-/
namespace QueryRows
namespace Json

open Number (digitValue maxWord)

/-- A number as it is written. -/
structure Numeral where
  negative : Bool
  integer : List Char
  fraction : Option (List Char)
  /-- the exponent: whether it is negative, and its digits -/
  exponent : Option (Bool × List Char)

/-- At least one digit, and what follows. -/
def readDigits? (cs : List Char) : Option (List Char × List Char) :=
  match cs.takeWhile Char.isDigit with
  | [] => none
  | ds => some (ds, cs.dropWhile Char.isDigit)

/-- The whole part of a number: a zero alone, or digits that start with another one. -/
def readWhole? : List Char → Option (List Char × List Char)
  | '0' :: rest =>
    match rest with
    | c :: _ => if c.isDigit then none else some (['0'], rest)
    | [] => some (['0'], [])
  | cs => readDigits? cs

/-- The fraction, if a point follows. -/
def readFraction? : List Char → Option (Option (List Char) × List Char)
  | '.' :: rest => (readDigits? rest).map fun p => (some p.1, p.2)
  | cs => some (none, cs)

/-- The exponent, if its mark follows. -/
def readExponent? : List Char → Option (Option (Bool × List Char) × List Char)
  | c :: rest =>
    if c = 'e' || c = 'E' then
      let (negative, ds) := match rest with
        | '-' :: r => (true, r)
        | '+' :: r => (false, r)
        | r => (false, r)
      (readDigits? ds).map fun p => (some (negative, p.1), p.2)
    else some (none, c :: rest)
  | [] => some (none, [])

/-- **Reads a number**, and what follows it. -/
def readNumeral? (cs : List Char) : Option (Numeral × List Char) := do
  let (negative, cs) := match cs with
    | '-' :: r => (true, r)
    | r => (false, r)
  let (integer, cs) ← readWhole? cs
  let (fraction, cs) ← readFraction? cs
  let (exponent, cs) ← readExponent? cs
  return (⟨negative, integer, fraction, exponent⟩, cs)

/-- Digits put behind `n` for as long as 64 bits hold the number, and how many digits are left over. -/
def significand (n : Nat) : List Char → Nat × Nat
  | [] => (n, 0)
  | d :: ds =>
    let n' := n * 10 + digitValue d
    if n' ≤ maxWord then significand n' ds else (n, ds.length + 1)

/-- Divides by a power of ten, in steps of the largest one that a double holds. -/
def divideByPower (x : Float) (power : Nat) : Float :=
  if power ≤ 308 then x / Float.ofScientific 1 false power
  else if x == 0.0 then x
  else divideByPower (x / Float.ofScientific 1 false 308) (power - 308)
termination_by power

/-- `x * 10 ^ power`, unless it is past all doubles. -/
def scaleByPower? (x : Float) (power : Int) : Option Float :=
  if power < 0 then some (divideByPower x power.natAbs)
  else if power ≤ 308 then
    let y := x * Float.ofScientific 1 false power.natAbs
    if y.isInf then none else some y
  else if x == 0.0 then some x
  else none

/-- The exponent that is written, or `none` when 32 bits do not hold it. -/
def Numeral.power? (n : Numeral) : Option Int :=
  match n.exponent with
  | none => some 0
  | some (negative, ds) =>
    let m := Number.digitsValue ds
    if m < 2 ^ 31 then some (if negative then -(m : Int) else m) else none

def Numeral.shrinks (n : Numeral) : Bool :=
  match n.exponent with
  | some (negative, _) => negative
  | none => false

/-- **The double that a number is.** -/
def Numeral.float? (n : Numeral) : Option Float :=
  let (head, dropped) := significand 0 n.integer
  let fraction := n.fraction.getD []
  let (digits, unread) := significand head fraction
  let magnitude := match n.power? with
    | some power => scaleByPower? (Float.ofNat digits) (power + dropped - ((fraction.length - unread : Nat) : Int))
    | none => if digits = 0 || n.shrinks then some 0.0 else none
  magnitude.map fun x => if n.negative then -x else x

/-- **The value of a number.**  A negative zero is a double. -/
def Numeral.value? (n : Numeral) : Option Json :=
  if n.fraction.isNone && n.exponent.isNone then
    let m := Number.digitsValue n.integer
    if !n.negative && m ≤ maxWord then some (.whole m)
    else if n.negative && 0 < m && m ≤ 2 ^ 63 then some (.whole (-(m : Int)))
    else n.float?.map .float
  else n.float?.map .float

end Json
end QueryRows
