import QueryRows.Text.Blank
import QueryRows.Text.Case
import QueryRows.Json.Layout
import QueryRows.Json.Syntax
/-!
# Metadata — the columns of a result

The field names that mapping has met, each in the chosen style and listed once, in the order of first appearance.
Metadata is kept in a file as JSON.
-/
namespace QueryRows

/-- How field names are written as columns. -/
inductive NameStyle where
  | upper
  | lower
  | normal
deriving DecidableEq

namespace NameStyle

def name : NameStyle → String
  | .upper => "upper"
  | .lower => "lower"
  | .normal => "normal"

def ofName? (s : String) : Option NameStyle := [upper, lower, normal].find? fun style => style.name == s

/-- **A field name as a column**: without the blanks around it and in the style's case. -/
def apply (style : NameStyle) (field : String) : String :=
  let body := Text.trim field.toList
  String.ofList <| match style with
    | .upper => Text.upper body
    | .lower => Text.lower body
    | .normal => body

end NameStyle

/-- The columns met so far, in a style. -/
structure Metadata where
  style : NameStyle
  columns : List String
deriving DecidableEq

namespace Metadata

def empty (style : NameStyle) : Metadata := ⟨style, []⟩

def knows (m : Metadata) (field : String) : Bool := m.columns.contains (m.style.apply field)

/-- **Notes the column of a field**, unless it is known. -/
def add (m : Metadata) (field : String) : Metadata :=
  if m.knows field then m else { m with columns := m.columns ++ [m.style.apply field] }

def index? (m : Metadata) (field : String) : Option Nat := m.columns.findIdx? (· == m.style.apply field)

def count (m : Metadata) : Nat := m.columns.length

def clear (m : Metadata) : Metadata := empty m.style

/-! ### Files -/

def save (m : Metadata) : String :=
  Json.pretty (.object [("style", .string m.style.name), ("columns", .array (m.columns.map Json.string))])

def textOfTree? : Json.Tree → Option String
  | .string items => Json.itemsText? items
  | _ => none

/-- A style in a document: its name, or an object with that name and null as its only member. -/
def styleOfTree? : Json.Tree → Option NameStyle
  | .string items => (Json.itemsText? items).bind NameStyle.ofName?
  | .object [(key, .null)] => (Json.itemsText? key).bind NameStyle.ofName?
  | _ => none

def columnsOfTree? : Json.Tree → Option (List String)
  | .array elements => elements.mapM textOfTree?
  | _ => none

/-- The members of a document that are read, each at most once; the others are not looked at. -/
def loadMembers? (style : Option NameStyle) (columns : Option (List String)) :
    List (List Json.QuotedItem × Json.Tree) → Option Metadata
  | [] => style.bind fun s => columns.map fun cs => ⟨s, cs⟩
  | (key, tree) :: rest =>
    match Json.itemsText? key with
    | none => none
    | some "style" =>
      match style, styleOfTree? tree with
      | none, some s => loadMembers? (some s) columns rest
      | _, _ => none
    | some "columns" =>
      match columns, columnsOfTree? tree with
      | none, some cs => loadMembers? style (some cs) rest
      | _, _ => none
    | some _ => loadMembers? style columns rest

/-- **Reads the text of a metadata file**: an object with both members, or an array of the two. -/
def load? (text : String) : Option Metadata :=
  match Json.readDocument? text with
  | some (.object members) => loadMembers? none none members
  | some (.array [style, columns]) => (styleOfTree? style).bind fun s => (columnsOfTree? columns).map fun cs => ⟨s, cs⟩
  | _ => none

end Metadata

end QueryRows
