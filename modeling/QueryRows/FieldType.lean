import QueryRows.Value
/-!
# FieldType — how a stored field takes a value

A field stores values of one type.  Taking a value in converts between whole numbers that fit, between numbers and
their wider forms, between dates and datetimes, from text to bytes and from anything but null to text; every other
value is refused with a `ValueError`.  An optional field also takes null.
-/
namespace QueryRows

open Number (Decimal floatText integerText)

/-- Why a value is refused. -/
inductive ValueError where
  | mismatch (expected found : String)
  | outOfRange (value target : String)
deriving DecidableEq

def ValueError.message : ValueError → String
  | .mismatch expected found => "Expected a " ++ expected ++ " value but found " ++ found
  | .outOfRange value target => "Value " ++ value ++ " is out of range for " ++ target

/-- The type of a stored value. -/
inductive ScalarType where
  | text
  | int
  | long
  | short
  | byte
  | float
  | decimal
  | boolean
  | date
  | datetime
  | bytes
  | enumeration
  /-- any value as it is, null included -/
  | value
deriving DecidableEq

namespace ScalarType

def name : ScalarType → String
  | .text => "text"
  | .int => "int"
  | .long => "long"
  | .short => "short"
  | .byte => "byte"
  | .float => "float"
  | .decimal => "decimal"
  | .boolean => "boolean"
  | .date => "date"
  | .datetime => "datetime"
  | .bytes => "bytes"
  | .enumeration => "enum"
  | .value => "value"

def all : List ScalarType :=
  [.text, .int, .long, .short, .byte, .float, .decimal, .boolean, .date, .datetime, .bytes, .enumeration, .value]

def refuse (t : ScalarType) (v : Value) : Except ValueError Value := .error (.mismatch t.name v.kindName)

/-- **A whole number is taken when it lies between the bounds**, and refused as out of range otherwise. -/
def narrow (t : ScalarType) (low high : Int) (make : Int → Value) (v : Value) : Except ValueError Value :=
  match v.whole? with
  | none => t.refuse v
  | some n =>
    if low ≤ n ∧ n ≤ high then .ok (make n) else .error (.outOfRange (integerText n) t.name)

/-- **Takes a value in**: the value as the type stores it, or the refusal. -/
def take (t : ScalarType) (v : Value) : Except ValueError Value :=
  match t with
  | .value => .ok v
  | .text =>
    match v with
    | .null => t.refuse v
    | v => .ok (.text v.display)
  | .int => t.narrow (-2 ^ 31) (2 ^ 31 - 1) (fun n => .int (Int32.ofInt n)) v
  | .long => t.narrow (-2 ^ 63) (2 ^ 63 - 1) (fun n => .long (Int64.ofInt n)) v
  | .short => t.narrow (-2 ^ 15) (2 ^ 15 - 1) (fun n => .short (Int16.ofInt n)) v
  | .byte => t.narrow (-2 ^ 7) (2 ^ 7 - 1) (fun n => .byte (Int8.ofInt n)) v
  | .float =>
    match v with
    | .float x => .ok (.float x)
    | .decimal d => .ok (.float d.toFloat)
    | v => match v.whole? with
      | some n => .ok (.float (Float.ofInt n))
      | none => t.refuse v
  | .decimal =>
    match v with
    | .decimal d => .ok (.decimal d)
    | .float x => match Decimal.ofFloat? x with
      | some d => .ok (.decimal d)
      | none => .error (.outOfRange (floatText x) t.name)
    | v => match v.whole? with
      | some n => .ok (.decimal (Decimal.ofInt64 (Int64.ofInt n)))
      | none => t.refuse v
  | .boolean =>
    match v with
    | .boolean b => .ok (.boolean b)
    | v => t.refuse v
  | .date =>
    match v with
    | .date d => .ok (.date d)
    | .datetime x => .ok (.date x.date)
    | v => t.refuse v
  | .datetime =>
    match v with
    | .datetime x => .ok (.datetime x)
    | .date d => .ok (.datetime d.atMidnight)
    | v => t.refuse v
  | .bytes =>
    match v with
    | .bytes bs => .ok (.bytes bs)
    | .text s => .ok (.bytes (Text.encodeUtf8 s))
    | v => t.refuse v
  | .enumeration =>
    match v with
    | .enumeration e => .ok (.enumeration e)
    | v => t.refuse v

end ScalarType

/-- A stored type, which may admit null. -/
structure FieldType where
  scalar : ScalarType
  optional : Bool
deriving DecidableEq

def FieldType.value : FieldType := ⟨.value, false⟩

/-- **Takes a value in**; an optional type takes null as null. -/
def FieldType.take (t : FieldType) (v : Value) : Except ValueError Value :=
  if t.optional && v.isNull then .ok .null else t.scalar.take v

end QueryRows
