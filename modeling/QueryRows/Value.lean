import QueryRows.Number.Decimal
import QueryRows.Calendar.Pattern
import QueryRows.Text.Utf8
/-!
# Value — what records carry and operations receive

A value is null or one of twelve kinds of scalars.  `Value.text` is how it is displayed, `Value.same` is the
equality that keys and sets go by: floats are compared as floats, so not-a-number differs from itself, and
decimals as numbers.
-/
namespace QueryRows

/-- One constant of an enumeration, as a value. -/
structure EnumValue where
  typeName : String
  name : String
  ordinal : Nat
deriving DecidableEq

/-- A dynamically typed value. -/
inductive Value where
  | null
  | text (s : String)
  | int (n : Int32)
  | long (n : Int64)
  | short (n : Int16)
  | byte (n : Int8)
  | float (x : Float)
  | decimal (d : Number.Decimal)
  | boolean (b : Bool)
  | date (d : Date)
  | datetime (t : DateTime)
  | bytes (bs : List UInt8)
  | enumeration (e : EnumValue)
deriving Inhabited

namespace Value

open Number (Decimal floatText integerText)

/-- Null is the absence of a value. -/
def isNull : Value → Bool
  | .null => true
  | _ => false

def kindName : Value → String
  | .null => "null"
  | .text _ => "text"
  | .int _ => "int"
  | .long _ => "long"
  | .short _ => "short"
  | .byte _ => "byte"
  | .float _ => "float"
  | .decimal _ => "decimal"
  | .boolean _ => "boolean"
  | .date _ => "date"
  | .datetime _ => "datetime"
  | .bytes _ => "bytes"
  | .enumeration _ => "enum"

/-- **The displayed text of a value.**  Null is empty, bytes are read as text, a datetime shows no fraction and an
enumeration its constant's name. -/
def display : Value → String
  | .null => ""
  | .text s => s
  | .int n => integerText n.toInt
  | .long n => integerText n.toInt
  | .short n => integerText n.toInt
  | .byte n => integerText n.toInt
  | .float x => floatText x
  | .decimal d => d.text
  | .boolean b => if b then "true" else "false"
  | .date d => d.text
  | .datetime t => t.text
  | .bytes bs => Text.decodeLossy bs
  | .enumeration e => e.name

def whole? : Value → Option Int
  | .int n => some n.toInt
  | .long n => some n.toInt
  | .short n => some n.toInt
  | .byte n => some n.toInt
  | _ => none

def isNumeric : Value → Bool
  | .float _ | .decimal _ => true
  | v => v.whole?.isSome

/-- **Equality of values**: the same kind and the same content, where floats are compared as floats and decimals
as numbers. -/
def same : Value → Value → Bool
  | .null, .null => true
  | .text a, .text b => a == b
  | .int a, .int b => a == b
  | .long a, .long b => a == b
  | .short a, .short b => a == b
  | .byte a, .byte b => a == b
  | .float a, .float b => a == b
  | .decimal a, .decimal b => a.same b
  | .boolean a, .boolean b => a == b
  | .date a, .date b => a == b
  | .datetime a, .datetime b => a == b
  | .bytes a, .bytes b => a == b
  | .enumeration a, .enumeration b => a == b
  | _, _ => false

/-- Two lists of values are the same position by position. -/
def sameAll : List Value → List Value → Bool
  | [], [] => true
  | a :: as, b :: bs => a.same b && sameAll as bs
  | _, _ => false

end Value

end QueryRows
