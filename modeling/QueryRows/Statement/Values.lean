import QueryRows.Json.Exchange
import QueryRows.Yaml.Meaning
/-!
# Values — the values of placeholders in a file

The file maps names to values.  A mapping inside it names what it holds with a point between the names, and of two
values under one name the one that comes later in the order of names stays (`nestedValues`).  The object is read from YAML
as far as `Yaml.parse?` reads it, which is without anchors, aliases, tags and directives.
-/
namespace QueryRows

/-- Why a text has no values. -/
inductive ValuesFault where
  | invalid
  | notMapping
deriving DecidableEq

/-- The fault in words, where it has any of its own. -/
def ValuesFault.message? : ValuesFault → Option String
  | .invalid => none
  | .notMapping => some "Values must be a mapping of names to values"

mutual

/-- The values in a member, under its name. -/
def flattenMember (name : String) : Json → List (String × Value)
  | .object members => flattenMembers (some name) members
  | j => [(name, Value.ofJson j)]

/-- **The values in members**, under their names behind the name of what they stand in. -/
def flattenMembers (outer : Option String) : List (String × Json) → List (String × Value)
  | [] => []
  | (key, j) :: rest =>
    let name := match outer with
      | some o => o ++ "." ++ key
      | none => key
    flattenMember name j ++ flattenMembers outer rest

end

/-- **The values in an object**, sorted by name. -/
def nestedValues (members : List (String × Json)) : List (String × Value) := sortEntries (flattenMembers none members)

/-- **Reads the values of a text.** -/
def readValues (text : String) : Except ValuesFault (List (String × Value)) :=
  match Yaml.parse? text with
  | none => .error .invalid
  | some none => .error .notMapping
  | some (some node) =>
    match node.toJson? with
    | none => .error .invalid
    | some (.object members) => .ok (nestedValues members)
    | some _ => .error .notMapping

end QueryRows
