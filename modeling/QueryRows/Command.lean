import QueryRows.Metadata
/-!
# Command — what the program can be asked to do

A command substitutes values into a template, maps records, or lists the placeholders of a template.
-/
namespace QueryRows

/-- How mapped rows are printed. -/
inductive OutputFormat where
  | table
  | json
deriving DecidableEq

namespace OutputFormat

def name : OutputFormat → String
  | .table => "table"
  | .json => "json"

def all : List OutputFormat := [.table, .json]

def ofName? (s : String) : Option OutputFormat := all.find? fun format => format.name == s

end OutputFormat

/-- Where a template comes from, with the marker that goes before the one it would have. -/
inductive TemplateChoice where
  | file (path : String) (marker : Option Char)
  | inline (text : String) (marker : Option Char)
  | missing
deriving DecidableEq

def TemplateChoice.path? : TemplateChoice → Option String
  | .file path _ => some path
  | _ => none

/-- The file that describes a mapping, and the values with which its query is sent first, where there are any. -/
structure DescribedBy where
  statement : String
  values : Option String
deriving DecidableEq

/-- A mapping of the records in a file. -/
structure MapJob where
  records : String
  description : Option DescribedBy
  start : Nat
  size : Nat
  /-- goes before the style of the description -/
  style : Option NameStyle
  format : OutputFormat
  /-- where the columns are written -/
  columns : Option String
deriving DecidableEq

/-- A command. -/
inductive Command where
  | render (template : TemplateChoice) (values : Option String)
  | map (job : MapJob)
  | inspect (template : TemplateChoice) (longestFirst : Bool)
deriving DecidableEq

end QueryRows
