import Schemata.Ddl.Dialect
import Schemata.Schema.Table

/-!
The body of a table, entry by entry. Each entry is a column, a constraint, an index or a definition
that is passed over with a warning; assembling the entries gives the table.
-/

namespace Schemata.Ddl

inductive Entry
  | column (column : ColumnDefinition)
  | constraint (constraint : Constraint)
  | index (index : IndexDefinition)
  | rejected (defect : Defect)
deriving DecidableEq, Repr

/-- A defect becomes the alternative value; other faults stay. -/
def orElseDefect {α : Type} (result : Except Fault α) (recover : Defect → α) : Except Fault α :=
  match result with
  | .error (.defect defect) => .ok (recover defect)
  | other => other

def readEntry (dialect : Dialect) (definition : Text) : Except Fault Entry :=
  orElseDefect (do
      match ← dialect.classifyDefinition definition with
      | .index => return .index (← dialect.indexDefinition definition)
      | .column => return .column (← dialect.column definition)
      | _ => return .constraint (← dialect.constraint definition))
    .rejected

/-- The results up to the first fault, and that fault. -/
def collect {α β : Type} (read : α → Except Fault β) : List α → List β × Option Fault
  | [] => ([], none)
  | a :: rest =>
      match read a with
      | .error fault => ([], some fault)
      | .ok b =>
          let (bs, fault) := collect read rest
          (b :: bs, fault)

/-- The parts of a table that have been read. -/
structure Draft where
  columns : List Column := []
  constraints : List Constraint := []
  indexes : List IndexDefinition := []
  inlineKey : List Text := []
  defects : List Defect := []
deriving DecidableEq, Repr

/-- The constraints that a column definition writes inline. -/
def inlineConstraints (column : ColumnDefinition) : List Constraint :=
  (if column.unique then [{ kind := .unique, columns := [column.name] }] else []) ++
  (match column.references with
    | some (table, referenced) =>
        [{ kind := .foreignKey, columns := [column.name], referencedTable := some table,
           referencedColumns := referenced }]
    | none => []) ++
  (match column.check with
    | some expression => [{ kind := .check, columns := [column.name], expression := some expression }]
    | none => [])

namespace Draft

/-- A column is added with its inline constraints, unless its name is taken. -/
def addColumn (draft : Draft) (column : ColumnDefinition) : Draft :=
  if draft.columns.any fun present => present.name == column.name then
    { draft with defects := draft.defects ++ [.duplicateColumn column.name] }
  else
    { draft with
      columns := draft.columns ++ [{
        name := column.name
        dataType := column.dataType
        nullable := !column.notNull
        primaryKey := column.primaryKey }]
      constraints := draft.constraints ++ inlineConstraints column
      inlineKey := draft.inlineKey ++ (if column.primaryKey then [column.name] else []) }

def add (draft : Draft) : Entry → Draft
  | .column column => draft.addColumn column
  | .constraint constraint => { draft with constraints := draft.constraints ++ [constraint] }
  | .index index => { draft with indexes := draft.indexes ++ [index] }
  | .rejected defect => { draft with defects := draft.defects ++ [defect] }

def ofEntries (entries : List Entry) : Draft :=
  entries.foldl add {}

def declaredKeys (draft : Draft) : List Constraint :=
  draft.constraints.filter fun constraint => constraint.kind == .primaryKey

def otherConstraints (draft : Draft) : List Constraint :=
  draft.constraints.filter fun constraint => constraint.kind != .primaryKey

/-- The primary key is declared in more than one place; all inline marks are one place. -/
def hasSeveralKeys (draft : Draft) : Bool :=
  1 < draft.declaredKeys.length + (if draft.inlineKey.isEmpty then 0 else 1)

/-- Keeps the first occurrence of each element. -/
def distinct : List Text → List Text
  | [] => []
  | a :: rest => a :: (distinct rest).filter (· != a)

/-- All primary keys as one: the inline columns, then those of the declared keys, each once, under
the first name given. -/
def mergedKey (draft : Draft) : Constraint :=
  { kind := .primaryKey
    columns := distinct (draft.inlineKey ++ draft.declaredKeys.flatMap Constraint.columns)
    name := draft.declaredKeys.findSome? fun key => key.name.filter fun name => !name.isEmpty }

/-- The constraints with the primary key, if there is one, at the head. -/
def mergedConstraints (draft : Draft) : List Constraint :=
  if draft.inlineKey.isEmpty && draft.declaredKeys.isEmpty then draft.otherConstraints
  else draft.mergedKey :: draft.otherConstraints

def metadata (draft : Draft) (table : Text) : TableMetadata :=
  TableMetadata.applyConstraintFlags {
    table := ⟨table, draft.columns⟩
    constraints := draft.mergedConstraints
    indexes := draft.indexes }

end Draft

end Schemata.Ddl
