import QueryRows.Command
import QueryRows.Number.Numeral
import QueryRows.Template
/-!
# Flag — the options of the commands

An option has a long name, some a short one too, and all but those that only are there or not take a value.  A value
that its option cannot take is refused where it stands (`Flag.accepts`).
-/
namespace QueryRows

/-- The names of the commands. -/
inductive Verb where
  | render
  | map
  | inspect
deriving DecidableEq

/-- The options. -/
inductive Flag where
  | statement
  | template
  | marker
  | values
  | byLength
  | input
  | startRow
  | window
  | nameStyle
  | format
  | columns
  | help
deriving DecidableEq

namespace Flag

def long : Flag → String
  | .statement => "statement"
  | .template => "template"
  | .marker => "marker"
  | .values => "values"
  | .byLength => "by-length"
  | .input => "input"
  | .startRow => "start-row"
  | .window => "window"
  | .nameStyle => "name-style"
  | .format => "format"
  | .columns => "meta"
  | .help => "help"

def short? : Flag → Option Char
  | .statement => some 's'
  | .template => some 't'
  | .values => some 'v'
  | .input => some 'i'
  | .help => some 'h'
  | _ => none

def takesValue : Flag → Bool
  | .byLength => false
  | .help => false
  | _ => true

/-- What stands for the value: the long name in capitals. -/
def placeholder (f : Flag) : String :=
  String.ofList (f.long.toList.map fun c => if c == '-' then '_' else c.toUpper)

def usage (f : Flag) : String := if f.takesValue then "--" ++ f.long ++ " <" ++ f.placeholder ++ ">" else "--" ++ f.long

end Flag

/-- A count: a natural number of 64 bits, with or without a plus sign. -/
def readCount? (s : String) : Option Nat := Number.readNatural? Number.maxWord s.toList

/-- **The values that an option takes.** -/
def Flag.accepts : Flag → String → Bool
  | .marker, v => (readMarker? v).isSome
  | .startRow, v => (readCount? v).isSome
  | .window, v => (readCount? v).isSome
  | .nameStyle, v => (NameStyle.ofName? v).isSome
  | .format, v => (OutputFormat.ofName? v).isSome
  | .template, _ => true
  | _, v => v != ""

namespace Verb

def name : Verb → String
  | .render => "render"
  | .map => "map"
  | .inspect => "inspect"

def all : List Verb := [.render, .map, .inspect]

def ofName? (s : String) : Option Verb := all.find? fun v => v.name == s

/-- **The options of a command**, in the order in which help lists them. -/
def flags : Verb → List Flag
  | .render => [.statement, .template, .marker, .values, .help]
  | .map => [.input, .statement, .values, .startRow, .window, .nameStyle, .format, .columns, .help]
  | .inspect => [.statement, .template, .marker, .byLength, .help]

end Verb

end QueryRows
