import QueryRows.Value
/-!
# Literal — values inside query text

Text and bytes are escaped so that they may stand between single quotes; every other value is displayed, and null
is written out.
-/
namespace QueryRows

def needsEscape (c : Char) : Bool := c == '\\' || c == '\''

/-- **Text as it stands between single quotes**: a backslash before every backslash and quote. -/
def escapeLiteral : List Char → List Char
  | [] => []
  | c :: cs => if needsEscape c then '\\' :: c :: escapeLiteral cs else c :: escapeLiteral cs

/-- **The text that a value becomes in a query.** -/
def renderValue : Value → List Char
  | .null => ['n', 'u', 'l', 'l']
  | .text s => escapeLiteral s.toList
  | .bytes bs => escapeLiteral (Text.decodeLossy bs).toList
  | v => v.display.toList

end QueryRows
