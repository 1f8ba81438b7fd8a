import QueryRows.Template.Segment
import QueryRows.Template.Token
import QueryRows.Template.Lookup
import QueryRows.Template.Literal
/-!
# Template — query text with placeholders

A template is a text cut into segments and those into pieces.  Substituting a source writes every mandatory
segment, where each placeholder needs a value, and every optional segment whose placeholders all have one.
-/
namespace QueryRows

/-- Why a text is no template, or a template has no text. -/
inductive TemplateError where
  | malformed (fault : SegmentFault)
  | noPlaceholders (text : String)
  | missingValue (token : String)
deriving DecidableEq

def TemplateError.message : TemplateError → String
  | .malformed fault => "Malformed template: " ++ fault.message
  | .noPlaceholders text => "Template '" ++ text ++ "' declares no placeholders"
  | .missingValue token => "No value supplied for mandatory placeholder '" ++ token ++ "'"

/-- A segment cut into pieces. -/
structure Segment where
  isOptional : Bool
  pieces : List Piece
deriving DecidableEq

/-- The marker of placeholders unless another one is chosen. -/
def defaultMarker : Char := '#'

/-- A marker as it is written: one character. -/
def readMarker? (s : String) : Option Char :=
  match s.toList with
  | [c] => some c
  | _ => none

/-- A parsed template. -/
structure Template where
  text : String
  marker : Char
  segments : List Segment
deriving DecidableEq

namespace Template

/-- **Reads a template.** -/
def parse (marker : Char) (text : String) : Except TemplateError Template :=
  match cutSegments text.toList with
  | .ok parts => .ok ⟨text, marker, parts.map fun p => ⟨p.isOptional, cutPieces marker p.body⟩⟩
  | .error fault => .error (.malformed fault)

/-- The first occurrences of the elements of a list. -/
def firstOccurrences (names : List String) : List String :=
  names.foldl (fun seen name => if seen.contains name then seen else seen ++ [name]) []

/-- **The distinct placeholders, in the order of their first appearance.** -/
def tokens (t : Template) : List String := firstOccurrences (t.segments.flatMap fun s => tokenNames s.pieces)

/-- The placeholders with the longest names first; equally long ones keep their order. -/
def tokensByLength (t : Template) : List String :=
  t.tokens.mergeSort fun a b => b.utf8ByteSize ≤ a.utf8ByteSize

def hasPlaceholders (t : Template) : Bool := !t.tokens.isEmpty

def optionalCount (t : Template) : Nat := (t.segments.filter (·.isOptional)).length

def parseFiltered (marker : Char) (text : String) : Except TemplateError Template :=
  match parse marker text with
  | .ok t => if t.hasPlaceholders then .ok t else .error (.noPlaceholders text)
  | .error e => .error e

/-! ### Substitution -/

/-- The text of mandatory pieces; a placeholder without a value is an error. -/
def renderMandatory (source : Source) : List Piece → Except TemplateError (List Char)
  | [] => .ok []
  | .literal text :: pieces => (renderMandatory source pieces).map (text ++ ·)
  | .token name :: pieces =>
    match source (String.ofList name) with
    | .missing => .error (.missingValue (String.ofList name))
    | .found v _ => (renderMandatory source pieces).map (renderValue v ++ ·)

/-- The text of optional pieces, or nothing when a placeholder has no value or a null that stands for none. -/
def renderOptional? (source : Source) : List Piece → Option (List Char)
  | [] => some []
  | .literal text :: pieces => (renderOptional? source pieces).map (text ++ ·)
  | .token name :: pieces =>
    match source (String.ofList name) with
    | .missing => none
    | .found .null true => none
    | .found v _ => (renderOptional? source pieces).map (renderValue v ++ ·)

def renderSegment (source : Source) (s : Segment) : Except TemplateError (List Char) :=
  if s.isOptional then .ok ((renderOptional? source s.pieces).getD []) else renderMandatory source s.pieces

/-- The text of segments, one after the other. -/
def renderSegments (source : Source) : List Segment → Except TemplateError (List Char)
  | [] => .ok []
  | s :: rest => do
    let text ← renderSegment source s
    let more ← renderSegments source rest
    return text ++ more

/-- **The text of a template with the values of a source.** -/
def substitute (t : Template) (source : Source) : Except TemplateError String :=
  (renderSegments source t.segments).map String.ofList

end Template

end QueryRows
