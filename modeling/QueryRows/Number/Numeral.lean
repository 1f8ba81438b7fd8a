/-!
# Numeral — whole numbers in decimal digits

Naturals and integers are written without leading zeros.  A number is read digit by digit against a bound, so the
first character that is no digit and the first digit that passes the bound are told apart
(`IntegerFault`).
-/
namespace QueryRows

-- Powers mean the same whether or not an algebraic library is imported next to these modules.
attribute [default_instance 20000, instance (2000)] instPowNat

namespace Number

def digits (n : Nat) : List Char := Nat.toDigits 10 n

def digitsValue (ds : List Char) : Nat := Nat.ofDigitChars 10 ds 0

theorem digitsValue_digits (n : Nat) : digitsValue (digits n) = n :=
  Nat.ofDigitChars_toDigits (by decide) (by decide)

theorem isDigit_of_mem_digits {n : Nat} {c : Char} (h : c ∈ digits n) : c.isDigit = true :=
  Nat.isDigit_of_mem_toDigits (by decide) (by decide) h

/-- The text of an integer: a minus sign when it is negative, then the digits of its magnitude. -/
def integerDigits (n : Int) : List Char :=
  if n < 0 then '-' :: digits n.natAbs else digits n.natAbs

/-- `integerDigits` as a string. -/
def integerText (n : Int) : String := String.ofList (integerDigits n)

def padded (width n : Nat) : List Char :=
  let ds := digits n
  List.replicate (width - ds.length) '0' ++ ds

/-- Why a text is no integer of a range. -/
inductive IntegerFault where
  | empty
  | invalidDigit
  | tooLarge
  | tooSmall
deriving DecidableEq, Repr

def IntegerFault.message : IntegerFault → String
  | .empty => "cannot parse integer from empty string"
  | .invalidDigit => "invalid digit found in string"
  | .tooLarge => "number too large to fit in target type"
  | .tooSmall => "number too small to fit in target type"

def digitValue (c : Char) : Nat := c.toNat - '0'.toNat

/-- **Reads digits onto `n`**: a character that is no digit is a fault, and so is the digit that takes the number
past `limit`. -/
def readDigits (limit : Nat) (past : IntegerFault) (n : Nat) : List Char → Except IntegerFault Nat
  | [] => .ok n
  | c :: cs =>
    if c.isDigit then
      let n' := n * 10 + digitValue c
      if n' ≤ limit then readDigits limit past n' cs else .error past
    else .error .invalidDigit

def readSomeDigits (limit : Nat) (past : IntegerFault) : List Char → Except IntegerFault Nat
  | [] => .error .invalidDigit
  | cs => readDigits limit past 0 cs

/-- **Reads an integer from `-below` to `above`**: an optional sign, then one or more digits. -/
def readInteger (below above : Nat) : List Char → Except IntegerFault Int
  | [] => .error .empty
  | '-' :: cs => (readSomeDigits below .tooSmall cs).map fun n => -(n : Int)
  | '+' :: cs => (readSomeDigits above .tooLarge cs).map Int.ofNat
  | cs => (readSomeDigits above .tooLarge cs).map Int.ofNat

/-- Reads a natural number up to `limit`: an optional plus sign, then one or more digits. -/
def readNatural? (limit : Nat) : List Char → Option Nat
  | '+' :: cs => (readSomeDigits limit .tooLarge cs).toOption
  | cs => (readSomeDigits limit .tooLarge cs).toOption

def maxWord : Nat := 2 ^ 64 - 1

end Number
end QueryRows
