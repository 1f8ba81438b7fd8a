import QueryRows.Command.Load
import QueryRows.TextTable
/-!
# Run — what commands do

A command reads files and leaves an `Outcome`: a text to print, and perhaps a file that is written before.  Records
are mapped directly or, where there are values, as the answer to the query of a statement (`MapPlan`); both ways map
the same records with the same choices.
-/
namespace QueryRows

/-- What a command leaves. -/
structure Outcome where
  output : String
  /-- the path and the text of a file -/
  file : Option (String × String)
deriving DecidableEq

def Outcome.print (output : String) : Outcome := ⟨output, none⟩

/-- The two ways to map records. -/
inductive MapPlan where
  | direct (m : Mapper)
  /-- sends the statement's query with values, and maps the records that answer it -/
  | queried (s : Statement) (values : List (String × Value))

/-- The mapper with a style that goes before its own. -/
def Mapper.restyle (m : Mapper) : Option NameStyle → Mapper
  | some style => m.set (.style style)
  | none => m

namespace MapPlan

/-- **Maps the records of a window**: the texts that a log was given, and the table or the failure. -/
def run (records : List Record) (start size : Nat) : MapPlan → List String × Except StatementError MappedTable
  | .direct m => ([], (m.run records start size).2.mapError .mapping)
  | .queried s values =>
    let (s', _, outcome) := s.queryWindow (ReplayDriver.ofRecords records) (entriesSource values) start size
    (s'.log.getD [], outcome)

def ofConfig (c : StatementConfig) (style : Option NameStyle) : MapPlan :=
  .direct ((Mapper.generic.setAll c.settings).restyle style)

def ofStatement (s : Statement) (style : Option NameStyle) (values : List (String × Value)) : MapPlan :=
  .queried { s.withLog [] with mapper := s.mapper.restyle style } values

end MapPlan

namespace MapJob

def plan (files : FileSource) (job : MapJob) : Except CommandFault MapPlan :=
  match job.description with
  | none => .ok (.ofConfig .empty job.style)
  | some d =>
    match loadStatement files d.statement with
    | .error e => .error e
    | .ok c =>
      match d.values with
      | none => .ok (.ofConfig c job.style)
      | some path =>
        match c.genericStatement with
        | .error e => .error (.template (.description c) e)
        | .ok s => (loadValues files path).map (.ofStatement s job.style)

def printRows (job : MapJob) (rows : BagList) : String :=
  match job.format with
  | .table => (TextTable.ofBags rows).render
  | .json => rows.toJson.pretty ++ "\n"

def outcome (job : MapJob) (t : MappedTable) : Except CommandFault Outcome :=
  match t.table with
  | .bagList rows => .ok ⟨job.printRows rows, job.columns.map fun path => (path, t.metadata.save)⟩
  | _ => .error .notRows

/-- **Maps the records of a file**: the texts that a log was given, and what is left. -/
def run (files : FileSource) (job : MapJob) : List String × Except CommandFault Outcome :=
  match loadRecords files job.records with
  | .error e => ([], .error e)
  | .ok records =>
    match job.plan files with
    | .error e => ([], .error e)
    | .ok plan =>
      let (logged, mapped) := plan.run records job.start job.size
      (logged, (mapped.mapError .statement).bind job.outcome)

end MapJob

namespace Command

def renderTemplate (files : FileSource) (choice : TemplateChoice) (values : Option String) :
    Except CommandFault Outcome := do
  let template ← choice.load files
  let values ← match values with
    | some path => loadValues files path
    | none => .ok []
  let text ← (template.substitute (entriesSource values)).mapError .rendering
  return .print (text ++ "\n")

/-- The placeholders of a template, one a line. -/
def listTokens (files : FileSource) (choice : TemplateChoice) (longestFirst : Bool) : Except CommandFault Outcome := do
  let template ← choice.load files
  let tokens := if longestFirst then template.tokensByLength else template.tokens
  return .print (String.join (tokens.map fun t => t ++ "\n"))

/-- **Runs a command on files**: the texts that a log was given, and what is left. -/
def run (files : FileSource) : Command → List String × Except CommandFault Outcome
  | .render choice values => ([], renderTemplate files choice values)
  | .map job => job.run files
  | .inspect choice longestFirst => ([], listTokens files choice longestFirst)

/-- The files that a command reads if it gets that far. -/
def reads : Command → List String
  | .render choice values => choice.path?.toList ++ values.toList
  | .map job => job.records :: (job.description.toList.flatMap fun d => d.statement :: d.values.toList)
  | .inspect choice _ => choice.path?.toList

end Command

end QueryRows
