import QueryRows.Value
import QueryRows.Text.Case
/-!
# Lookup — where the values of placeholders come from

A source answers every token with a value or with nothing.  `entriesSource` looks a token up among named values:
under that very name, or else under the first name that differs from it in the case of ASCII letters only.
-/
namespace QueryRows

/-- What a source says about a token. -/
inductive Lookup where
  | missing
  /-- `nullable` tells a null that stands for no value from one that is a value -/
  | found (value : Value) (nullable : Bool)

/-- A source of values. -/
abbrev Source := String → Lookup

/-- **Looks a token up among named values.** -/
def lookupEntry (entries : List (String × Value)) (token : String) : Lookup :=
  match entries.lookup token with
  | some v => .found v true
  | none =>
    match entries.find? fun e => Text.sameIgnoringAsciiCase e.1 token with
    | some e => .found e.2 true
    | none => .missing

def entriesSource (entries : List (String × Value)) : Source := lookupEntry entries

end QueryRows
