import QueryRows.Template
import QueryRows.Mapper
/-!
# Statement — a template whose results are mapped

A statement substitutes values into its template, gives the text to its log and to a driver, and maps the records that
come back.  Nothing is sent over a connection that is not valid, nor while a value is missing.
-/
namespace QueryRows

/-- **What executes query texts**, with a state that a text may change. -/
class QueryDriver (D : Type) where
  isConnected : D → Bool
  /-- the driver after a text, and the records that answer the text or why it was refused -/
  execute : D → String → D × Except String (List Record)

/-- A driver that answers every text with the same records and keeps the texts it was given. -/
structure ReplayDriver where
  records : List Record
  executed : List String
  connected : Bool

namespace ReplayDriver

def ofRecords (records : List Record) : ReplayDriver := ⟨records, [], true⟩

def disconnected : ReplayDriver := ⟨[], [], false⟩

instance : QueryDriver ReplayDriver where
  isConnected d := d.connected
  execute d text := ({ d with executed := d.executed ++ [text] }, .ok d.records)

end ReplayDriver

/-- Why a query has no result. -/
inductive StatementError where
  | template (e : TemplateError)
  | notConnected
  | execution (reason : String)
  | mapping (e : MappingError)
deriving DecidableEq

def StatementError.message : StatementError → String
  | .template e => e.message
  | .notConnected => "Connection is not valid"
  | .execution reason => "Query execution failed: " ++ reason
  | .mapping e => e.message

/-- A template, the mapper of its results, and the texts that its log was given, if it has a log. -/
structure Statement where
  template : Template
  mapper : Mapper
  log : Option (List String)

namespace Statement

def ofTemplate (template : Template) (mapper : Mapper) : Statement := ⟨template, mapper, none⟩

/-- The statement with a log, which may have been given texts before. -/
def withLog (s : Statement) (log : List String) : Statement := { s with log := some log }

/-- The line that a log shows for a text that it is given. -/
def logLine (text : String) : String := "Executing query: " ++ text

def note (s : Statement) (text : String) : Statement := { s with log := s.log.map (· ++ [text]) }

variable {D : Type} [QueryDriver D]

/-- **Sends a text** to the log first and then to the driver, and maps the records of a window of its answer: the
statement and the driver afterwards, and the table or the failure. -/
def send (s : Statement) (d : D) (text : String) (start size : Nat) :
    Statement × D × Except StatementError MappedTable :=
  let s := s.note text
  match QueryDriver.execute d text with
  | (d, .error reason) => (s, d, .error (.execution reason))
  | (d, .ok records) =>
    let (mapper, outcome) := s.mapper.run records start size
    ({ s with mapper }, d, outcome.mapError .mapping)

/-- **Sends the template with the values of a source**, if the connection is valid and no value is missing. -/
def queryWindow (s : Statement) (d : D) (source : Source) (start size : Nat) :
    Statement × D × Except StatementError MappedTable :=
  if !QueryDriver.isConnected d then (s, d, .error .notConnected)
  else match s.template.substitute source with
    | .error e => (s, d, .error (.template e))
    | .ok text => s.send d text start size

def query (s : Statement) (d : D) (source : Source) : Statement × D × Except StatementError MappedTable :=
  s.queryWindow d source 0 0

/-- Sends a text as it is, if the connection is valid. -/
def queryText (s : Statement) (d : D) (text : String) : Statement × D × Except StatementError MappedTable :=
  if !QueryDriver.isConnected d then (s, d, .error .notConnected) else s.send d text 0 0

end Statement

end QueryRows
