import QueryRows.Mapping.Run
import QueryRows.Class.Generic
/-!
# Mapper — a configuration that is compiled when it is first needed

A mapper keeps its compiled mapping, and what that has learnt, until the configuration changes.  A configuration that
does not compile is reported by every use and changes nothing.
-/
namespace QueryRows

/-- A compiled mapping and what it has learnt so far. -/
structure CompiledMapping where
  mapping : Mapping
  memory : FieldMemory

/-- A configuration, its compilation if there is one, and how many compilations there have been. -/
structure Mapper where
  config : MappingConfig
  compiled : Option CompiledMapping
  compilations : Nat

/-- The outcome of a run: the table, the number of rows it was given and the columns met so far. -/
structure MappedTable where
  table : Obj
  rowCount : Nat
  metadata : Metadata

namespace Mapper

def empty : Mapper := ⟨.empty, none, 0⟩

/-- **Changes a choice**; whatever was compiled is given up. -/
def set (m : Mapper) (s : Setting) : Mapper := { m with config := m.config.set s, compiled := none }

def setAll (m : Mapper) (ss : List Setting) : Mapper := ss.foldl set m

def ofClasses (table row : Class) : Mapper := (empty.set (.table table)).set (.row row)

def generic : Mapper := ofClasses bagListClass bagClass

def isCompiled (m : Mapper) : Bool := m.compiled.isSome

/-- **The compilation**, made now if there is none. -/
def compile (m : Mapper) : Except CompileError (CompiledMapping × Mapper) :=
  match m.compiled with
  | some c => .ok (c, m)
  | none =>
    match Mapping.compile m.config with
    | .error e => .error e
    | .ok mapping =>
      let c : CompiledMapping := ⟨mapping, .empty m.config.style⟩
      .ok (c, { m with compiled := some c, compilations := m.compilations + 1 })

def prepare (m : Mapper) : Mapper × Except MappingError Unit :=
  match m.compile with
  | .ok (_, m') => (m', .ok ())
  | .error e => (m, .error (.compile e))

/-- **Maps the records of a window**: the mapper afterwards, and the table or the failure. -/
def run (m : Mapper) (records : List Record) (start size : Nat) : Mapper × Except MappingError MappedTable :=
  match m.compile with
  | .error e => (m, .error (.compile e))
  | .ok (c, m') =>
    let (memory, outcome) := c.mapping.run c.memory records start size
    ({ m' with compiled := some ⟨c.mapping, memory⟩ },
      outcome.map fun a => ⟨a.table, a.added, memory.metadata⟩)

def metadata? (m : Mapper) : Option Metadata := m.compiled.map fun c => c.memory.metadata

/-- The number of coercion rules resolved since the last compilation. -/
def resolutions (m : Mapper) : Nat :=
  match m.compiled with
  | some c => c.memory.coercions.resolutions
  | none => 0

end Mapper

end QueryRows
