import QueryRows.Statement.Config
import QueryRows.Yaml.Layout
/-!
# File — descriptions of statements as YAML

A description is a mapping of known names, each at most once, or a sequence of their values in order.  What is
missing keeps its default, but for the template, which has to be there.  A text that `Yaml.parse?` refuses, as it does
those with anchors, aliases, tags or directives, describes no statement.
-/
namespace QueryRows

/-- Why a text describes no statement. -/
inductive ConfigFault where
  | invalid
  | noTemplate
deriving DecidableEq

/-- The names in a description, in the order in which they are written. -/
inductive ConfigField where
  | template
  | fill
  | rowFill
  | style
  | relationKeys
  | marker
deriving DecidableEq

namespace ConfigField

def all : List ConfigField := [.template, .fill, .rowFill, .style, .relationKeys, .marker]

def name : ConfigField → String
  | .template => "template"
  | .fill => "fill"
  | .rowFill => "row_fill"
  | .style => "name_style"
  | .relationKeys => "relation_keys"
  | .marker => "marker"

end ConfigField

namespace StatementConfig

/-- A text that may be null: `none` when the node is no text. -/
def optionalText? (n : Yaml.Node) : Option (Option String) :=
  if n.isNull then some none else n.text?.map some

/-- **The description with the value of a name.** -/
def setField? (c : StatementConfig) (f : ConfigField) (n : Yaml.Node) : Option StatementConfig :=
  match f with
  | .template => n.text?.map fun s => { c with template := s }
  | .fill => (optionalText? n).map fun s => { c with fill := s }
  | .rowFill => (optionalText? n).map fun s => { c with rowFill := s }
  | .style => (n.text?.bind NameStyle.ofName?).map fun s => { c with style := s }
  | .relationKeys => (optionalText? n).map fun s => { c with relationKeys := s }
  | .marker =>
    match optionalText? n with
    | none => none
    | some none => some { c with marker := none }
    | some (some s) => (readMarker? s).map fun m => { c with marker := some m }

/-- The description with the members of a mapping; a name is known and not among those `seen` before. -/
def setMembers? (c : StatementConfig) (seen : List ConfigField) :
    List (Yaml.Node × Yaml.Node) → Option StatementConfig
  | [] => some c
  | (key, n) :: rest =>
    match key.text?.bind fun k => ConfigField.all.find? fun f => f.name == k with
    | none => none
    | some f =>
      if seen.contains f then none
      else match c.setField? f n with
        | none => none
        | some c => c.setMembers? (f :: seen) rest

/-- The description with values in the order of their names. -/
def setElements? (c : StatementConfig) : List ConfigField → List Yaml.Node → Option StatementConfig
  | _, [] => some c
  | [], _ :: _ => none
  | f :: fs, n :: ns => (c.setField? f n).bind fun c => c.setElements? fs ns

def ofNode? : Yaml.Node → Option StatementConfig
  | .scalar true "" => some empty
  | .scalar _ _ => none
  | .mapping members => empty.setMembers? [] members
  | .sequence elements => empty.setElements? ConfigField.all elements

/-- **Reads a description**, which has to have a template that is not blank. -/
def load (text : String) : Except ConfigFault StatementConfig :=
  let config? := match Yaml.parse? text with
    | none => none
    | some none => some empty
    | some (some node) => ofNode? node
  match config? with
  | none => .error .invalid
  | some c => if (Text.trim c.template.toList).isEmpty then .error .noTemplate else .ok c

def optionalEntry (f : ConfigField) : Option String → List Yaml.Entry
  | some s => [.ofText f.name s]
  | none => []

/-- What is written under a name; the template and the style always are. -/
def entries (c : StatementConfig) : ConfigField → List Yaml.Entry
  | .template => [.ofText ConfigField.template.name c.template]
  | .fill => optionalEntry .fill c.fill
  | .rowFill => optionalEntry .rowFill c.rowFill
  | .style => [.ofText ConfigField.style.name c.style.name]
  | .relationKeys => optionalEntry .relationKeys c.relationKeys
  | .marker => (c.marker.map fun m => Yaml.Entry.ofChar ConfigField.marker.name m).toList

/-- **The text of a description.** -/
def save (c : StatementConfig) : String := Yaml.write (ConfigField.all.flatMap c.entries)

end StatementConfig

end QueryRows
