/-!
# Json — JSON documents

The value of a document.  Whole numbers that fit into 64 bits, with or without a sign, stay whole; all other
numbers are doubles.  The members of an object stand in the order in which they are written.
-/
namespace QueryRows

/-- A JSON value. -/
inductive Json where
  | null
  | bool (b : Bool)
  | whole (n : Int)
  | float (x : Float)
  | string (s : String)
  | array (elements : List Json)
  | object (members : List (String × Json))
deriving Inhabited

namespace Json

def elements? : Json → Option (List Json)
  | .array elements => some elements
  | _ => none

def members? : Json → Option (List (String × Json))
  | .object members => some members
  | _ => none

end Json

end QueryRows
