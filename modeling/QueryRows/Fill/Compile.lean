import QueryRows.Fill.Call
import QueryRows.Fill.Plan
/-!
# Compile — fillers turned into plans

The operation that a filler names is looked up on its class by name and number of arguments.  A single candidate
is taken as it is; among several the declared kinds decide, where a row count is read as a long first and as an
int only if no single candidate is left.
-/
namespace QueryRows

/-- A part of the configuration that has to be there. -/
inductive RequiredClass where
  | table
  | row
deriving DecidableEq

def RequiredClass.phrase : RequiredClass → String
  | .table => "a table class"
  | .row => "a row class"

/-- What a filler is for, which decides the arguments it may have. -/
inductive FillerRole where
  | table
  | row
deriving DecidableEq

def FillerRole.arguments : FillerRole → String
  | .table => "row, rowNo or row.<field>"
  | .row => "colValue or colName"

/-- Why a configuration cannot be compiled. -/
inductive CompileError where
  | missingClass (part : RequiredClass)
  | invalidSpec (spec : String) (fault : CallFault)
  | invalidArgument (spec argument : String) (role : FillerRole)
  | unknownOperation (className name : String) (arity : Nat)
  | ambiguousOverload (className name : String) (arity candidates : Nat)
  | unknownAccessor (className path : String)
  | rowArgumentRepeated (spec : String)
deriving DecidableEq

def CompileError.message : CompileError → String
  | .missingClass part => "Mapping configuration is missing " ++ part.phrase
  | .invalidSpec spec fault => "Filler '" ++ spec ++ "' is not a valid call: " ++ fault.message
  | .invalidArgument spec argument role =>
    "Filler '" ++ spec ++ "' has an unsupported argument '" ++ argument ++ "'; expected " ++ role.arguments
  | .unknownOperation c name arity =>
    "'" ++ c ++ "' has no operation '" ++ name ++ "' taking " ++ toString arity ++ " argument(s)"
  | .ambiguousOverload c name arity candidates =>
    "'" ++ c ++ "." ++ name ++ "' has " ++ toString candidates ++ " overload(s) taking " ++ toString arity ++
      " argument(s) and none resolves uniquely"
  | .unknownAccessor c path => "'" ++ c ++ "' has no accessor for '" ++ path ++ "'"
  | .rowArgumentRepeated spec => "Filler '" ++ spec ++ "' passes the row more than once"

/-- A path on a class, or the error that there is none. -/
def compilePath (c : Class) (path : String) : Except CompileError FieldPath :=
  match FieldPath.resolve? c path with
  | some p => .ok p
  | none => .error (.unknownAccessor c.name path)

/-! ### Choosing among overloads -/

/-- A method accepts arguments of these kinds, position by position. -/
def acceptsKinds (m : Method) (kinds : List Kind) : Bool :=
  (m.params.zip kinds).all fun p => p.1.accepts p.2

/-- The methods that accept arguments of these kinds. -/
def matching (candidates : List Method) (kinds : List Kind) : List Method :=
  candidates.filter fun m => acceptsKinds m kinds

/-- **Chooses a method** by name, by number of arguments and, among several, by kinds: `kinds` first, and
`retryKinds` when there are such and `kinds` leave no single one. -/
def chooseMethod (c : Class) (name : String) (kinds : List Kind) (retryKinds : Option (List Kind)) :
    Except CompileError Method :=
  match c.methodsNamed name kinds.length with
  | [] => .error (.unknownOperation c.name name kinds.length)
  | [only] => .ok only
  | candidates =>
    let ambiguous : Except CompileError Method :=
      .error (.ambiguousOverload c.name name kinds.length candidates.length)
    match matching candidates kinds, retryKinds with
    | [chosen], _ => .ok chosen
    | _, none => ambiguous
    | _, some retry =>
      match matching candidates retry with
      | [chosen] => .ok chosen
      | _ => ambiguous

/-! ### Table fillers -/

def hasOrdinal (params : List ParamSource) : Bool :=
  params.any fun
    | .ordinal => true
    | _ => false

def hasRow (params : List ParamSource) : Bool :=
  params.any fun
    | .row => true
    | _ => false

/-- What follows `row.` in an argument, in any case. -/
def afterRowDot? (arg : String) : Option String :=
  match arg.toList with
  | r :: o :: w :: '.' :: rest =>
    if Text.sameIgnoringAsciiCase (String.ofList [r, o, w]) "row" then some (String.ofList rest) else none
  | _ => none

/-- The source that an argument of a table filler names. -/
def tableParam (spec : String) (row : Class) (arg : String) : Except CompileError ParamSource :=
  if Text.sameIgnoringAsciiCase arg "row" then .ok .row
  else if Text.sameIgnoringAsciiCase arg "rowNo" then .ok .ordinal
  else match afterRowDot? arg with
    | some path => (compilePath row path).map .field
    | none => .error (.invalidArgument spec arg .table)

/-- The sources of a table filler's arguments, from left to right; `seen` are the ones before. -/
def tableParams (spec : String) (row : Class) (seen : List ParamSource) :
    List String → Except CompileError (List ParamSource)
  | [] => .ok seen
  | arg :: args =>
    match tableParam spec row arg with
    | .error e => .error e
    | .ok .row =>
      if hasRow seen then .error (.rowArgumentRepeated spec) else tableParams spec row (seen ++ [.row]) args
    | .ok p => tableParams spec row (seen ++ [p]) args

/-- The kind of a table filler's argument, where a row count is of kind `count`. -/
def tableKind (row : Class) (count : Kind) : ParamSource → Kind
  | .row => .object row.name
  | .ordinal => count
  | .field path => path.kind
  | .value => .any
  | .name => .text

def parseFiller (spec : String) : Except CompileError Call :=
  match Call.parse spec.toList with
  | .ok call => .ok call
  | .error fault => .error (.invalidSpec spec fault)

/-- **Compiles a table filler**, such as `add(row)` or `put(row.id, row)`. -/
def compileTableFiller (spec : String) (table row : Class) : Except CompileError FillPlan := do
  let call ← parseFiller spec
  let params ← tableParams spec row [] call.args
  let retry := if hasOrdinal params then some (params.map (tableKind row .int)) else none
  let method ← chooseMethod table call.name (params.map (tableKind row .long)) retry
  return ⟨method, params, none⟩

/-! ### Row fillers -/

/-- The name of the filler that leaves every field to its own setter. -/
def perFieldName : String := "setter"

/-- The source that an argument of a row filler names. -/
def rowParam (spec arg : String) : Except CompileError ParamSource :=
  if Text.sameIgnoringAsciiCase arg "colValue" then .ok .value
  else if Text.sameIgnoringAsciiCase arg "colName" then .ok .name
  else .error (.invalidArgument spec arg .row)

def rowKind : ParamSource → Kind
  | .name => .text
  | _ => .any

/-- **Compiles a row filler**, such as `put(colName, colValue)` or `setter(colValue)`. -/
def compileRowFiller (spec : String) (row : Class) : Except CompileError RowFiller := do
  let call ← parseFiller spec
  if Text.sameIgnoringAsciiCase call.name perFieldName then return .perField
  let params ← call.args.mapM (rowParam spec)
  let method ← chooseMethod row call.name (params.map rowKind) none
  return .fixed ⟨method, params, none⟩

/-! ### Fields -/

/-- The setter of a property, the first one declared. -/
def setterFor? (c : Class) (property : String) : Option Method := (c.methodsNamed ("set" ++ property) 1).head?

/-- **Compiles the plan of a field**: `x` goes to the row's setter of `x`, and `a.b` to the setter of `b` on the
object of the row's nested property `a`.  A field that no setter takes has no plan. -/
def compileFieldPlan (field : String) (row : Class) : Option FillPlan :=
  match Text.splitOnce '.' field.toList with
  | none => (setterFor? row field).map fun m => ⟨m, [.value], none⟩
  | some (head, tail) =>
    match row.nested? (String.ofList head) with
    | none => none
    | some n =>
      if tail.contains '.' then none
      else (setterFor? n.type (String.ofList tail)).map fun m => ⟨m, [.value], some n⟩

end QueryRows
