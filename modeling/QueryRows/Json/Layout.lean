import QueryRows.Json.Quoted
import QueryRows.Json.Numeral
/-!
# Layout — JSON documents as text

`compact` writes no blanks.  `pretty` puts every element and member on a line of its own, two spaces deeper than
the bracket around it, and writes an empty array or object as its two brackets.
-/
namespace QueryRows
namespace Json

/-- A number that is not finite has no numeral and is written as null. -/
def floatNumeral (x : Float) : List Char :=
  if x.isNaN || x.isInf then ['n', 'u', 'l', 'l'] else (Number.FloatLayout.numeric.finite x).toList

def scalarText : Json → List Char
  | .null | .array _ | .object _ => ['n', 'u', 'l', 'l']
  | .bool b => if b then ['t', 'r', 'u', 'e'] else ['f', 'a', 'l', 's', 'e']
  | .whole n => Number.integerDigits n
  | .float x => floatNumeral x
  | .string s => quoted s

mutual

def compactText : Json → List Char
  | .array elements => '[' :: compactElements elements ++ [']']
  | .object members => '{' :: compactMembers members ++ ['}']
  | j => scalarText j

def compactElements : List Json → List Char
  | [] => []
  | [j] => compactText j
  | j :: js => compactText j ++ ',' :: compactElements js

def compactMembers : List (String × Json) → List Char
  | [] => []
  | [(name, j)] => quoted name ++ ':' :: compactText j
  | (name, j) :: js => quoted name ++ ':' :: compactText j ++ ',' :: compactMembers js

end

/-- **The text of a document on one line without blanks.** -/
def compact (j : Json) : String := String.ofList (compactText j)

def lineStart (depth : Nat) : List Char := '\n' :: List.replicate (2 * depth) ' '

mutual

/-- The text of a document over several lines, the inner ones at `depth` and deeper. -/
def prettyText (depth : Nat) : Json → List Char
  | .array [] => ['[', ']']
  | .array elements => '[' :: prettyElements (depth + 1) elements ++ lineStart depth ++ [']']
  | .object [] => ['{', '}']
  | .object members => '{' :: prettyMembers (depth + 1) members ++ lineStart depth ++ ['}']
  | j => scalarText j

def prettyElements (depth : Nat) : List Json → List Char
  | [] => []
  | [j] => lineStart depth ++ prettyText depth j
  | j :: js => lineStart depth ++ prettyText depth j ++ ',' :: prettyElements depth js

def prettyMembers (depth : Nat) : List (String × Json) → List Char
  | [] => []
  | [(name, j)] => lineStart depth ++ quoted name ++ ':' :: ' ' :: prettyText depth j
  | (name, j) :: js =>
    lineStart depth ++ quoted name ++ ':' :: ' ' :: prettyText depth j ++ ',' :: prettyMembers depth js

end

/-- **The text of a document with one element or member on each line.** -/
def pretty (j : Json) : String := String.ofList (prettyText 0 j)

end Json
end QueryRows
