import QueryRows.Yaml.Node
import QueryRows.Json
import QueryRows.NameMap
import QueryRows.Number.FloatText
/-!
# Meaning — what plain scalars stand for

A quoted scalar or block is text.  A plain scalar may be null, a boolean or a number, and is text otherwise; digits
behind a leading zero are text too.  `Node.toJson?` reads a document as JSON, where the keys are the texts of
scalars and the last one of a name stays.
-/
namespace QueryRows
namespace Yaml

open Number (digitsValue digitValue readFloat)

/-- What a plain scalar stands for. -/
inductive Meaning where
  | null
  | bool (b : Bool)
  /-- a whole number of at most 128 bits -/
  | whole (n : Int)
  | float (x : Float)
  | text

def nullWords : List String := ["", "null", "Null", "NULL", "~"]

def boolWord? (s : String) : Option Bool :=
  if ["true", "True", "TRUE"].contains s then some true
  else if ["false", "False", "FALSE"].contains s then some false
  else none

/-- Digits of a base, as a number. -/
def digitsOfBase? (base : Nat) : List Char → Option Nat
  | [] => none
  | cs => cs.foldl (fun n c => n.bind fun n => (Text.hexValue? c).bind fun d =>
      if d < base then some (n * base + d) else none) (some 0)

/-- A sign in front is left out. -/
def withoutSign : List Char → List Char
  | '-' :: cs | '+' :: cs => cs
  | cs => cs

/-- **Digits behind a leading zero**, with or without a sign. -/
def hasLeadingZero (cs : List Char) : Bool :=
  match withoutSign cs with
  | '0' :: rest => !rest.isEmpty && rest.all Char.isDigit
  | _ => false

/-- A whole number without a sign: digits behind the mark of their base, or decimal digits. -/
def magnitude? : List Char → Option Nat
  | '0' :: 'x' :: rest => digitsOfBase? 16 rest
  | '0' :: 'o' :: rest => digitsOfBase? 8 rest
  | '0' :: 'b' :: rest => digitsOfBase? 2 rest
  | cs => if hasLeadingZero cs then none else digitsOfBase? 10 cs

/-- **A whole number** of at most 128 bits, with an optional sign. -/
def whole? (cs : List Char) : Option Int :=
  match cs with
  | '-' :: rest => ((magnitude? rest).filter (· ≤ 2 ^ 127)).map fun n => -(n : Int)
  | '+' :: rest => ((magnitude? rest).filter (· < 2 ^ 128)).map Int.ofNat
  | cs => ((magnitude? cs).filter (· < 2 ^ 128)).map Int.ofNat

def finite? (cs : List Char) : Option Float :=
  match readFloat cs with
  | .ok x => if x.isNaN || x.isInf then none else some x
  | .error _ => none

/-- **A float**: a numeral of a finite value, or the name of an infinity or of not-a-number behind a point. -/
def float? (cs : List Char) : Option Float :=
  let s := String.ofList cs
  if [".inf", ".Inf", ".INF", "+.inf", "+.Inf", "+.INF"].contains s then some (1.0 / 0.0)
  else if ["-.inf", "-.Inf", "-.INF"].contains s then some (-1.0 / 0.0)
  else if [".nan", ".NaN", ".NAN"].contains s then some (0.0 / 0.0)
  else match cs with
    | '+' :: '+' :: _ | '+' :: '-' :: _ => none
    | '+' :: rest => finite? rest
    | cs => finite? cs

/-- **What a plain scalar stands for.** -/
def meaning (s : String) : Meaning :=
  let cs := s.toList
  if nullWords.contains s then .null
  else match boolWord? s with
    | some b => .bool b
    | none =>
      match whole? cs with
      | some n => .whole n
      | none =>
        if hasLeadingZero cs then .text
        else match float? cs with
          | some x => .float x
          | none => .text

/-- A plain scalar in JSON, if it is no whole number past 64 bits; a float that is not finite is null. -/
def plainJson? (s : String) : Option Json :=
  match meaning s with
  | .null => some .null
  | .bool b => some (.bool b)
  | .whole n => if -2 ^ 63 ≤ n ∧ n < 2 ^ 64 then some (.whole n) else none
  | .float x => some (if x.isNaN || x.isInf then .null else .float x)
  | .text => some (.string s)

def Node.text? : Node → Option String
  | .scalar _ text => some text
  | _ => none

def Node.isNull : Node → Bool
  | .scalar true text => nullWords.contains text
  | _ => false

mutual

/-- **A node in JSON.** -/
def Node.toJson? : Node → Option Json
  | .scalar true text => plainJson? text
  | .scalar false text => some (.string text)
  | .sequence elements => (elementsToJson? elements).map .array
  | .mapping members => (membersToJson? members).map fun ms => .object (sortEntries ms)

def elementsToJson? : List Node → Option (List Json)
  | [] => some []
  | n :: ns =>
    match n.toJson?, elementsToJson? ns with
    | some j, some js => some (j :: js)
    | _, _ => none

def membersToJson? : List (Node × Node) → Option (List (String × Json))
  | [] => some []
  | (key, n) :: ms =>
    match key.text?, n.toJson?, membersToJson? ms with
    | some key, some j, some js => some ((key, j) :: js)
    | _, _, _ => none

end

end Yaml
end QueryRows
