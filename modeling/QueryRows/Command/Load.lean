import QueryRows.Command
import QueryRows.Statement.File
import QueryRows.Statement.Values
import QueryRows.Text.Shown
/-!
# Load — what commands read from files

A command reads through a function from paths to texts and never asks twice.  Every fault names the file in which it
was found.
-/
namespace QueryRows

/-- What the path of a file leads to: its text, if it can be read. -/
abbrev FileSource := String → Option String

/-- What a file is read for. -/
inductive FileRole where
  | statement
  | values
  | records
deriving DecidableEq

def FileRole.name : FileRole → String
  | .statement => "statement"
  | .values => "values"
  | .records => "records"

/-- Where a template was found. -/
inductive TemplateOrigin where
  | file (path : String)
  | inline
  | description (c : StatementConfig)
deriving DecidableEq

def TemplateOrigin.context : TemplateOrigin → String
  | .file path => "Parsing template from " ++ Text.shown path
  | .inline => "Parsing inline template"
  | .description c => c.templateContext

/-- Why a command fails. -/
inductive CommandFault where
  | notOpened (role : FileRole) (path : String)
  | notRead (role : FileRole) (path : String) (cause : Option String)
  | notRecords (path : String)
  | noTemplate (path : String)
  | noTemplateChosen
  | template (origin : TemplateOrigin) (e : TemplateError)
  | rendering (e : TemplateError)
  | statement (e : StatementError)
  | notRows
  | notWritten (path : String)
deriving DecidableEq

namespace MappingError

/-- A failure in words, and behind it its cause where it has one. -/
def chain : MappingError → List String
  | .compile e => [e.message]
  | .row rowNo field cause => [(MappingError.row rowNo field cause).message, cause.message]
  | .table rowNo cause => [(MappingError.table rowNo cause).message, cause.message]

end MappingError

namespace CommandFault

/-- **The fault in words, from what was being done to its cause.** -/
def chain : CommandFault → List String
  | .notOpened role path => ["Opening " ++ role.name ++ " file " ++ Text.shown path]
  | .notRead role path cause => ("Parsing " ++ role.name ++ " file " ++ Text.shown path) :: cause.toList
  | .notRecords path => ["Records in " ++ Text.shown path ++ " must be an array of objects"]
  | .noTemplate path => ["Statement file " ++ Text.shown path ++ " has no template"]
  | .noTemplateChosen => ["Either --statement or --template is required"]
  | .template origin e => [origin.context, e.message]
  | .rendering e => ["Rendering template", e.message]
  | .statement (.mapping e) => e.chain
  | .statement e => [e.message]
  | .notRows => ["Mapped table is not a row list"]
  | .notWritten path => ["Writing metadata to " ++ Text.shown path]

end CommandFault

def openFile (files : FileSource) (role : FileRole) (path : String) : Except CommandFault String :=
  match files path with
  | some text => .ok text
  | none => .error (.notOpened role path)

def loadStatement (files : FileSource) (path : String) : Except CommandFault StatementConfig :=
  match openFile files .statement path with
  | .error e => .error e
  | .ok text =>
    match StatementConfig.load text with
    | .ok c => .ok c
    | .error .invalid => .error (.notRead .statement path none)
    | .error .noTemplate => .error (.noTemplate path)

def loadValues (files : FileSource) (path : String) : Except CommandFault (List (String × Value)) :=
  match openFile files .values path with
  | .error e => .error e
  | .ok text => (readValues text).mapError fun e => .notRead .values path e.message?

def loadRecords (files : FileSource) (path : String) : Except CommandFault (List Record) :=
  match openFile files .records path with
  | .error e => .error e
  | .ok text =>
    match Json.parse? text with
    | none => .error (.notRead .records path none)
    | some j =>
      match recordsOfJson? j with
      | none => .error (.notRecords path)
      | some records => .ok records

/-- **The template that was chosen**; a marker on the command line goes before the one in the file. -/
def TemplateChoice.load (files : FileSource) : TemplateChoice → Except CommandFault Template
  | .file path marker =>
    match loadStatement files path with
    | .error e => .error e
    | .ok c => ({ c with marker := marker <|> c.marker }.parseTemplate).mapError (.template (.file path))
  | .inline text marker => (Template.parse (marker.getD defaultMarker) text).mapError (.template .inline)
  | .missing => .error .noTemplateChosen

end QueryRows
