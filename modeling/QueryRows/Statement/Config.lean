import QueryRows.Statement
/-!
# Config — a statement described in a file

The description has the template and, where they differ from the defaults, the marker of its placeholders and the
choices of the mapping.
-/
namespace QueryRows

/-- The description of a statement. -/
structure StatementConfig where
  template : String
  fill : Option String
  rowFill : Option String
  style : NameStyle
  relationKeys : Option String
  marker : Option Char
deriving DecidableEq

namespace StatementConfig

def empty : StatementConfig := ⟨"", none, none, .upper, none, none⟩

def effectiveMarker (c : StatementConfig) : Char := c.marker.getD defaultMarker

def parseTemplate (c : StatementConfig) : Except TemplateError Template := Template.parse c.effectiveMarker c.template

/-- **The choices of the mapping**; the style is always one of them. -/
def settings (c : StatementConfig) : List Setting :=
  (c.fill.map Setting.fill).toList ++ (c.rowFill.map Setting.rowFill).toList ++ [.style c.style] ++
    (c.relationKeys.map Setting.relationKeys).toList

def templateContext (c : StatementConfig) : String := "Parsing template '" ++ c.template ++ "'"

/-- The statement that collects every record as a bag. -/
def genericStatement (c : StatementConfig) : Except TemplateError Statement :=
  match c.parseTemplate with
  | .ok template => .ok (.ofTemplate template (Mapper.generic.setAll c.settings))
  | .error e => .error e

end StatementConfig

end QueryRows
