import QueryRows.Kind
import QueryRows.Text.Case
/-!
# Coercion — source values turned into declared kinds

The pair of a value's family and a declared kind selects a transform (`Transform.select`); applying it converts
the value or fails.  Pairs outside the table leave the value as it is, and null is never converted.
-/
namespace QueryRows

open Number (Decimal floatText integerText readInteger readFloat readNatural? maxWord)

/-- The family a source value belongs to. -/
inductive Family where
  | text
  | integer
  | float
  | boolean
  | other
deriving DecidableEq

def Family.of : Value → Family
  | .text _ => .text
  | .int _ | .long _ | .short _ | .byte _ => .integer
  | .float _ | .decimal _ => .float
  | .boolean _ => .boolean
  | _ => .other

def Family.name : Family → String
  | .text => "text"
  | .integer => "integer"
  | .float => "float"
  | .boolean => "boolean"
  | .other => "other"

/-- A conversion that failed: the text of the value, the kind it was meant for, and why. -/
structure CoercionError where
  value : String
  target : Kind
  reason : String
deriving DecidableEq

def CoercionError.message (e : CoercionError) : String :=
  "Cannot convert '" ++ e.value ++ "' to " ++ e.target.name ++ ": " ++ e.reason

/-- How values of one family become values of a kind. -/
inductive Transform where
  | identity
  | parseText (target : Kind)
  | integer (target : Kind)
  | positiveAsTrue
  | float (target : Kind)
  | booleanAsInt
  | stringify
  | enumeration (e : EnumType)
deriving DecidableEq

/-- **The transform for a family and a declared kind.** -/
def Transform.select : Family → Kind → Transform
  | .text, .enumeration e => .enumeration e
  | .text, .text | .text, .object _ | .text, .any => .identity
  | .text, k => .parseText k
  | .integer, .enumeration e => .enumeration e
  | .integer, .int => .integer .int
  | .integer, .long => .integer .long
  | .integer, .short => .integer .short
  | .integer, .byte => .integer .byte
  | .integer, .decimal => .integer .decimal
  | .integer, .float => .integer .float
  | .integer, .boolean => .positiveAsTrue
  | .integer, .text => .stringify
  | .float, .float => .float .float
  | .float, .decimal => .float .decimal
  | .float, .text => .stringify
  | .boolean, .int => .booleanAsInt
  | .boolean, .text => .stringify
  | _, _ => .identity

/-! ### Text -/

/-- The bounds of a whole kind: how far below zero it reaches, how far above, and the value it makes of a
number. -/
structure WholeKind where
  below : Nat
  above : Nat
  make : Int → Value

def WholeKind.of? : Kind → Option WholeKind
  | .int => some ⟨2 ^ 31, 2 ^ 31 - 1, fun n => .int (Int32.ofInt n)⟩
  | .long => some ⟨2 ^ 63, 2 ^ 63 - 1, fun n => .long (Int64.ofInt n)⟩
  | .short => some ⟨2 ^ 15, 2 ^ 15 - 1, fun n => .short (Int16.ofInt n)⟩
  | .byte => some ⟨2 ^ 7, 2 ^ 7 - 1, fun n => .byte (Int8.ofInt n)⟩
  | _ => none

def decimalFault : String := "invalid decimal"

/-- **Reads the text of a value of a kind.**  Blanks around it do not count, except for bytes, which take every
character; any text that is not `true` in some case is the boolean false. -/
def parseText (text : String) (target : Kind) : Except CoercionError Value :=
  let body := Text.trim text.toList
  let failure (reason : String) : Except CoercionError Value := .error ⟨text, target, reason⟩
  match target with
  | .int | .long | .short | .byte =>
    match WholeKind.of? target with
    | some w =>
      match readInteger w.below w.above body with
      | .ok n => .ok (w.make n)
      | .error e => failure e.message
    | none => .ok (.text text)
  | .float =>
    match readFloat body with
    | .ok x => .ok (.float x)
    | .error e => failure e.message
  | .decimal =>
    match (Decimal.read? body).or (Decimal.readScientific? body) with
    | some d => .ok (.decimal d)
    | none => failure decimalFault
  | .boolean => .ok (.boolean (Text.sameIgnoringAsciiCase (String.ofList body) "true"))
  | .date =>
    match Date.read? body with
    | some d => .ok (.date d)
    | none => failure "unrecognized date format"
  | .datetime =>
    match DateTime.read? body with
    | some t => .ok (.datetime t)
    | none => failure "unrecognized datetime format"
  | .bytes => .ok (.bytes (Text.encodeUtf8 text))
  | _ => .ok (.text text)

/-! ### Numbers -/

def integerTo (n : Int) (target : Kind) : Except CoercionError Value :=
  match target with
  | .decimal => .ok (.decimal (Decimal.ofInt64 (Int64.ofInt n)))
  | .float => .ok (.float (Float.ofInt n))
  | target =>
    match WholeKind.of? target with
    | some w =>
      if -(w.below : Int) ≤ n ∧ n ≤ w.above then .ok (w.make n)
      else .error ⟨integerText n, target, "out of range"⟩
    | none => .ok (.long (Int64.ofInt n))

def floatTo (v : Value) (target : Kind) : Except CoercionError Value :=
  match target, v with
  | .decimal, .float x =>
    match Decimal.ofFloat? x with
    | some d => .ok (.decimal d)
    | none => .error ⟨floatText x, target, "not representable as decimal"⟩
  | .float, .decimal d => .ok (.float d.toFloat)
  | _, v => .ok v

/-! ### Enumerations -/

/-- **The ordinal that a text names**: the first constant displayed so, else the first one named so, both ignoring
the case of ASCII letters, else the ordinal it writes. -/
def EnumType.ordinal? (e : EnumType) (text : String) : Option Nat :=
  ((e.constants.findIdx? fun c => Text.sameIgnoringAsciiCase c.display text).or
    (e.constants.findIdx? fun c => Text.sameIgnoringAsciiCase c.name text)).or
    ((readNatural? maxWord (Text.trim text.toList)).filter (· < e.constants.length))

def EnumType.resolve? (e : EnumType) (text : String) : Option EnumValue :=
  (e.ordinal? text).bind e.value?

/-! ### Transforms -/

/-- **Applies a transform.**  Null stays null, and so does a value that the transform is not meant for. -/
def Transform.apply (t : Transform) (v : Value) : Except CoercionError Value :=
  if v.isNull then .ok .null
  else match t with
    | .identity => .ok v
    | .stringify => .ok (.text v.display)
    | .parseText target =>
      match v with
      | .text s => QueryRows.parseText s target
      | v => .ok v
    | .integer target =>
      match v.whole? with
      | some n => integerTo n target
      | none => .ok v
    | .positiveAsTrue =>
      match v.whole? with
      | some n => .ok (.boolean (0 < n))
      | none => .ok v
    | .float target => floatTo v target
    | .booleanAsInt =>
      match v with
      | .boolean b => .ok (.int (if b then 1 else 0))
      | v => .ok v
    | .enumeration e =>
      match e.resolve? v.display with
      | some c => .ok (.enumeration c)
      | none => .ok .null

/-- A family, a declared kind, and the transform between them. -/
structure CoercionRule where
  source : Family
  target : Kind
  transform : Transform
deriving DecidableEq

def CoercionRule.resolve (source : Family) (target : Kind) : CoercionRule :=
  ⟨source, target, Transform.select source target⟩

def CoercionRule.apply (r : CoercionRule) (v : Value) : Except CoercionError Value := r.transform.apply v

/-- **Converts a value by the rule of its own family.** -/
def coerce (v : Value) (target : Kind) : Except CoercionError Value :=
  (CoercionRule.resolve (Family.of v) target).apply v

end QueryRows
