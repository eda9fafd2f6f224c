import Schemata.Ddl.Reading
import Schemata.Inference.Links

/-!
From a script to its schema. Tables are registered first; the constraints and indexes that other
statements add, wherever they stand, are applied after that; then the relationships are inferred.
What goes wrong is recorded, and a breakdown keeps what the stages before it gave.
-/

namespace Schemata

open Ddl (Dialect Fault Reading StatementKind)

namespace Pipeline

/-- The width to which diagnostics cut the statement that they show. -/
def width : Int := 80

def diagnostic (statement : Text) (index : Nat) (severity : Severity) (message : Text) : Diagnostic :=
  { message, statementIndex := some index, severity, statement := some (Text.excerpt width statement) }

/-- The errors and warnings of a reading. -/
def diagnosticsOf (statement : Text) (reading : Reading) : List Diagnostic :=
  reading.errors.map (diagnostic statement reading.index .error) ++
    reading.warnings.map (diagnostic statement reading.index .warning)

def duplicateTable (table : Text) : Text :=
  "Duplicate table ".toList ++ table ++ "; keeping the first definition".toList

def unknownTarget (kind : StatementKind) (table : Text) : Text :=
  kind.label ++ " targets unknown table ".toList ++ table

/-- The state while the statements are read. Changes to tables are put off, each with the text of
its statement. -/
structure Loading where
  registry : Registry := {}
  diagnostics : List Diagnostic := []
  deferred : List (Reading × Text) := []
deriving DecidableEq, Repr

/-- Enters a reading: a table is registered, and a change to a table is put off. -/
def Loading.enter (loading : Loading) (statement : Text) (reading : Reading) : Loading :=
  let noted := { loading with diagnostics := loading.diagnostics ++ diagnosticsOf statement reading }
  if !reading.accepted || reading.kind = .other then noted
  else if reading.kind = .createTable then
    match reading.metadata with
    | none => noted
    | some metadata =>
        match noted.registry.register metadata with
        | (registry, true) => { noted with registry }
        | (_, false) =>
            { noted with diagnostics := noted.diagnostics ++
                [diagnostic statement reading.index .warning (duplicateTable metadata.name)] }
  else { noted with deferred := noted.deferred ++ [(reading, statement)] }

/-- Reads statements up to a breakdown of the dialect. -/
def load (dialect : Dialect) (loading : Loading) : List (Text × Nat) → Loading × Option Fault
  | [] => (loading, none)
  | (statement, index) :: rest =>
      match dialect.read statement index with
      | .error fault => (loading, some fault)
      | .ok reading => load dialect (loading.enter statement reading) rest

/-- Adds constraints to a table and notes those that it cannot take. -/
def addConstraints (registry : Registry) (table : Text) (note : Text → Diagnostic) :
    List Constraint → Registry × List Diagnostic
  | [] => (registry, [])
  | constraint :: rest =>
      match registry.addConstraint table constraint with
      | .ok changed => addConstraints changed table note rest
      | .error error =>
          let (registry, notes) := addConstraints registry table note rest
          (registry, note error.message :: notes)

/-- Applies a change to its table. -/
def applyDeferred (registry : Registry) (reading : Reading) (statement : Text) :
    Registry × List Diagnostic :=
  let note := diagnostic statement reading.index .warning
  let table := reading.tableName.getD []
  if !registry.contains table then (registry, [note (unknownTarget reading.kind table)])
  else
    match reading.indexDefinition with
    | some index =>
        match registry.addIndex table index with
        | .ok changed => (changed, [])
        | .error error => (registry, [note error.message])
    | none => addConstraints registry table note reading.constraints

def applyAll (registry : Registry) : List (Reading × Text) → Registry × List Diagnostic
  | [] => (registry, [])
  | (reading, statement) :: rest =>
      let (changed, notes) := applyDeferred registry reading statement
      let (final, others) := applyAll changed rest
      (final, notes ++ others)

/-- The diagnostic of a breakdown, which belongs to no statement. -/
def aborted (fault : Fault) : Diagnostic :=
  { message := "Schema inference aborted: ".toList ++ fault.message, severity := .error }

def tablesOf (registry : Registry) : List Table :=
  registry.tables.map TableMetadata.table

/-- Infers the relationships of a complete registry. -/
def infer (config : Config) (rules : Rules) (registry : Registry) (diagnostics : List Diagnostic) :
    Result :=
  match junctionTables rules config.maxExtraColumns registry with
  | .error fault => { tables := tablesOf registry, diagnostics := diagnostics ++ [aborted fault] }
  | .ok junctions =>
      let (links, fault) := (Engine.ofRegistry registry junctions config rules).run []
      { tables := tablesOf registry
        relationships := Relationship.report links
        junctionTables := junctions
        diagnostics := diagnostics ++ fault.toList.map aborted }

/-- The schema of a script under given recognisers and rules. -/
def run (dialect : Dialect) (config : Config) (rules : Rules) (script : Text) : Result :=
  match load dialect {} (Script.statements script).zipIdx with
  | (loading, some fault) =>
      { tables := tablesOf loading.registry, diagnostics := loading.diagnostics ++ [aborted fault] }
  | (loading, none) =>
      let (registry, notes) := applyAll loading.registry loading.deferred
      infer config rules registry.resolveImplicitReferences (loading.diagnostics ++ notes)

end Pipeline

/-- The schema of a script. -/
def inferSchema (config : Config) (script : Text) : Result :=
  Pipeline.run Dialect.standard config config.rules script

end Schemata
