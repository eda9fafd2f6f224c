import Schemata.Ddl.TableBody

/-!
The reading of a single statement. A statement that cannot be read is marked as not accepted and
keeps what was found before the fault.
-/

namespace Schemata.Ddl

structure Reading where
  index : Nat
  kind : StatementKind
  tableName : Option Text := none
  metadata : Option TableMetadata := none
  constraints : List Constraint := []
  indexDefinition : Option IndexDefinition := none
  accepted : Bool := true
  errors : List Text := []
  warnings : List Text := []
deriving DecidableEq, Repr

namespace Reading

def fail (reading : Reading) (fault : Fault) : Reading :=
  { reading with accepted := false, errors := reading.errors ++ [fault.description] }

/-- A warning that names the table. -/
def aboutTable (table message : Text) : Text :=
  table ++ ": ".toList ++ message

def severalKeys : Text := "multiple PRIMARY KEY definitions merged".toList

def ofCreateTable (dialect : Dialect) (statement : Text) (reading : Reading) : Reading :=
  match dialect.createTable statement with
  | .error fault => reading.fail fault
  | .ok (table, body) =>
      let (entries, fault) := collect (readEntry dialect) (Script.items body)
      let draft := Draft.ofEntries entries
      let named := { reading with
        tableName := some table
        warnings := draft.defects.map fun (defect : Defect) => aboutTable table defect.message }
      match fault with
      | some fault => named.fail fault
      | none =>
          if draft.columns.isEmpty then named.fail (.defect (.noColumns table))
          else
            { named with
              metadata := some (draft.metadata table)
              warnings := named.warnings ++
                (if draft.hasSeveralKeys then [aboutTable table severalKeys] else []) }

def ofAlterTable (dialect : Dialect) (statement : Text) (reading : Reading) : Reading :=
  match dialect.alterTable statement with
  | .error fault => reading.fail fault
  | .ok change =>
      let read (definition : Text) : Except Fault (Except Defect Constraint) :=
        orElseDefect ((dialect.constraint definition).map Except.ok) Except.error
      let (outcomes, fault) := collect read change.added
      let named := { reading with
        tableName := some change.table
        constraints := outcomes.filterMap Except.toOption
        warnings := outcomes.filterMap fun
          | .ok _ => none
          | .error defect => some (aboutTable change.table defect.message) }
      match fault with
      | some fault => named.fail fault
      | none => named

def ofCreateIndex (dialect : Dialect) (statement : Text) (reading : Reading) : Reading :=
  match dialect.createIndex statement with
  | .error fault => reading.fail fault
  | .ok creation =>
      { reading with tableName := some creation.table, indexDefinition := some creation.index }

/-- Reads a statement of a known kind. -/
def ofKind (dialect : Dialect) (kind : StatementKind) (statement : Text) (index : Nat) : Reading :=
  let blank : Reading := { index, kind }
  match kind with
  | .createTable => ofCreateTable dialect statement blank
  | .alterTable => ofAlterTable dialect statement blank
  | .createIndex => ofCreateIndex dialect statement blank
  | .other => blank

end Reading

/-- Reads a statement; only the classification of the statement can fail. -/
def Dialect.read (dialect : Dialect) (statement : Text) (index : Nat) : Except Fault Reading := do
  let kind ← dialect.classify statement
  return Reading.ofKind dialect kind statement index

/-- Reads all statements of a script. -/
def Dialect.readScript (dialect : Dialect) (script : Text) : Except Fault (List Reading) :=
  (Script.statements script).zipIdx.mapM fun (statement, index) => dialect.read statement index

end Schemata.Ddl
