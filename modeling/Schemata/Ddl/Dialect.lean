import Schemata.Ddl.ColumnDefinition

/-!
A dialect is a set of recognisers for the parts of a script. The standard one is built from the
readers of this library; others may refuse a part or break down on it.
-/

namespace Schemata.Ddl

structure Dialect where
  classify : Text → Except Fault StatementKind
  createTable : Text → Except Fault (Text × Text)
  classifyDefinition : Text → Except Fault DefinitionKind
  constraint : Text → Except Fault Constraint
  indexDefinition : Text → Except Fault IndexDefinition
  column : Text → Except Fault ColumnDefinition
  alterTable : Text → Except Fault TableChange
  createIndex : Text → Except Fault IndexCreation

namespace Dialect

def ofDefect {α : Type} (result : Except Defect α) : Except Fault α :=
  result.mapError .defect

/-- A constraint, with the name that may stand before it. -/
def readConstraint (classifyDefinition : Text → Except Fault DefinitionKind) (definition : Text) :
    Except Fault Constraint := do
  let (name, text) := splitName definition
  let kind ← classifyDefinition text
  match ← ofDefect (readConstraintOf kind text) with
  | some constraint => return { constraint with name }
  | none => throw (.defect (.constraint definition))

/-- The constraint that an action adds; other actions add none. -/
def readAction (classifyDefinition : Text → Except Fault DefinitionKind) (action : Text) :
    Except Fault (Option Text) := do
  let some part := addedPart action | return none
  if (← classifyDefinition part) = .column then return none
  return some (Text.trim part)

def readAlterTable (classifyDefinition : Text → Except Fault DefinitionKind) (statement : Text) :
    Except Fault TableChange := do
  let some (written, actions) := alterTableHead.first (Text.trim statement)
    | throw (.defect .alterTable)
  let added ← (Script.items actions).mapM (readAction classifyDefinition)
  return ⟨normalizeIdentifier written, added.filterMap id⟩

/-- The readers of this library under given classifiers of statements and definitions. -/
def withClassifiers (classify : Text → Except Fault StatementKind)
    (classifyDefinition : Text → Except Fault DefinitionKind) : Dialect where
  classify := classify
  createTable statement := ofDefect (readCreateTable statement)
  classifyDefinition := classifyDefinition
  constraint := readConstraint classifyDefinition
  indexDefinition definition := ofDefect (readIndexDefinition definition)
  column definition := ofDefect (readColumn definition)
  alterTable := readAlterTable classifyDefinition
  createIndex statement := ofDefect (readCreateIndex statement)

def standard : Dialect :=
  withClassifiers (fun statement => return Ddl.classify statement)
    (fun definition => return Ddl.classifyDefinition definition)

/-- The dialect that recognises nothing. -/
def unsupported : Dialect where
  classify _ := throw .unsupported
  createTable _ := throw .unsupported
  classifyDefinition _ := throw .unsupported
  constraint _ := throw .unsupported
  indexDefinition _ := throw .unsupported
  column _ := throw .unsupported
  alterTable _ := throw .unsupported
  createIndex _ := throw .unsupported

end Dialect

end Schemata.Ddl
