import QueryRows.Value
/-!
# Kind — what an operation declares about a parameter

A kind names the values that a parameter or a getter holds.  `any` stands for every kind; all other kinds accept
only themselves (`Kind.accepts`).
-/
namespace QueryRows

/-- One constant of an enumeration: its name and how it is displayed. -/
structure EnumConstant where
  name : String
  display : String
deriving DecidableEq

/-- An enumeration: its constants in the order of their ordinals. -/
structure EnumType where
  name : String
  constants : List EnumConstant
deriving DecidableEq

/-- The constant with an ordinal, as a value. -/
def EnumType.value? (e : EnumType) (ordinal : Nat) : Option EnumValue :=
  e.constants[ordinal]?.map fun c => ⟨e.name, c.name, ordinal⟩

/-- The declared kind of a parameter or getter. -/
inductive Kind where
  | text
  | int
  | long
  | short
  | byte
  | float
  | decimal
  | boolean
  | date
  | datetime
  | bytes
  | enumeration (e : EnumType)
  | object (className : String)
  | any
deriving DecidableEq

/-- The name of a kind: an enumeration and a class go by their own names. -/
def Kind.name : Kind → String
  | .text => "text"
  | .int => "int"
  | .long => "long"
  | .short => "short"
  | .byte => "byte"
  | .float => "float"
  | .decimal => "decimal"
  | .boolean => "boolean"
  | .date => "date"
  | .datetime => "datetime"
  | .bytes => "bytes"
  | .enumeration e => e.name
  | .object c => c
  | .any => "any"

/-- **A declared kind accepts an inferred one when they are equal or one of them is `any`.** -/
def Kind.accepts (declared inferred : Kind) : Bool :=
  declared == .any || inferred == .any || declared == inferred

end QueryRows
