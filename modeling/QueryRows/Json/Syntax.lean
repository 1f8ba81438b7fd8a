import QueryRows.Json.Quoted
import QueryRows.Json.Numeral
import QueryRows.NameMap
/-!
# Syntax — JSON text

Text is read in two steps.  `readDocument?` settles the grammar alone; `Tree.value?` then gives strings and
numbers their values and refuses deep nesting.  A part of a document that nobody asks for is thus held to the
grammar only.
-/
namespace QueryRows
namespace Json

/-- A document as it is written. -/
inductive Tree where
  | null
  | bool (b : Bool)
  | number (n : Numeral)
  | string (items : List QuotedItem)
  | array (elements : List Tree)
  | object (members : List (List QuotedItem × Tree))

def isBlank (c : Char) : Bool := c == ' ' || c == '\t' || c == '\n' || c == '\r'

def skipBlanks (cs : List Char) : List Char := cs.dropWhile isBlank

mutual

/-- Reads one value; `fuel` bounds the number of values within it. -/
def readTree? : Nat → List Char → Option (Tree × List Char)
  | 0, _ => none
  | fuel + 1, cs =>
    match skipBlanks cs with
    | 'n' :: 'u' :: 'l' :: 'l' :: rest => some (.null, rest)
    | 't' :: 'r' :: 'u' :: 'e' :: rest => some (.bool true, rest)
    | 'f' :: 'a' :: 'l' :: 's' :: 'e' :: rest => some (.bool false, rest)
    | '"' :: rest => (readQuoted? rest).map fun p => (.string p.1, p.2)
    | '[' :: rest =>
      match skipBlanks rest with
      | ']' :: rest' => some (.array [], rest')
      | _ => (readElements? fuel rest).map fun p => (.array p.1, p.2)
    | '{' :: rest =>
      match skipBlanks rest with
      | '}' :: rest' => some (.object [], rest')
      | _ => (readMembers? fuel rest).map fun p => (.object p.1, p.2)
    | cs => (readNumeral? cs).map fun p => (.number p.1, p.2)

/-- Reads the elements of an array up to its closing bracket. -/
def readElements? : Nat → List Char → Option (List Tree × List Char)
  | 0, _ => none
  | fuel + 1, cs =>
    match readTree? fuel cs with
    | none => none
    | some (element, rest) =>
      match skipBlanks rest with
      | ',' :: rest' => (readElements? fuel rest').map fun p => (element :: p.1, p.2)
      | ']' :: rest' => some ([element], rest')
      | _ => none

/-- Reads the members of an object up to its closing brace. -/
def readMembers? : Nat → List Char → Option (List (List QuotedItem × Tree) × List Char)
  | 0, _ => none
  | fuel + 1, cs =>
    match skipBlanks cs with
    | '"' :: rest =>
      match readQuoted? rest with
      | none => none
      | some (name, rest) =>
        match skipBlanks rest with
        | ':' :: rest =>
          match readTree? fuel rest with
          | none => none
          | some (element, rest) =>
            match skipBlanks rest with
            | ',' :: rest' => (readMembers? fuel rest').map fun p => ((name, element) :: p.1, p.2)
            | '}' :: rest' => some ([(name, element)], rest')
            | _ => none
        | _ => none
    | _ => none

end

/-- **Reads a text that is one value** with blanks around it.  Every value within takes a character of its own, so
the length of the text bounds their number. -/
def readDocument? (text : String) : Option Tree :=
  let cs := text.toList
  match readTree? (2 * cs.length + 2) cs with
  | some (tree, rest) => if (skipBlanks rest).isEmpty then some tree else none
  | none => none

def itemsText? (items : List QuotedItem) : Option String := (joinUnits? items).map String.ofList

mutual

/-- **The value of a document** that nests arrays and objects at most `depth` deep.  Members are sorted by name,
and the last one under a name stays. -/
def Tree.value? (depth : Nat) : Tree → Option Json
  | .null => some .null
  | .bool b => some (.bool b)
  | .number n => n.value?
  | .string items => (itemsText? items).map .string
  | .array elements => if depth = 0 then none else (elementValues? (depth - 1) elements).map .array
  | .object members =>
    if depth = 0 then none
    else (memberValues? (depth - 1) members).map fun ms => .object (sortEntries ms)

def elementValues? (depth : Nat) : List Tree → Option (List Json)
  | [] => some []
  | t :: ts =>
    match t.value? depth, elementValues? depth ts with
    | some v, some vs => some (v :: vs)
    | _, _ => none

/-- The names and values of the members of an object. -/
def memberValues? (depth : Nat) : List (List QuotedItem × Tree) → Option (List (String × Json))
  | [] => some []
  | (name, t) :: ts =>
    match itemsText? name, t.value? depth, memberValues? depth ts with
    | some name, some v, some vs => some ((name, v) :: vs)
    | _, _, _ => none

end

/-- How deep arrays and objects may nest. -/
def maxDepth : Nat := 127

/-- **Reads a JSON document.** -/
def parse? (text : String) : Option Json := (readDocument? text).bind (Tree.value? maxDepth)

end Json
end QueryRows
