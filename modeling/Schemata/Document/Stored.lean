import Schemata.Document.Access
import Schemata.Schema.Result

/-!
Schemas as documents hold them. Names, types and the like are values of any kind there; only the
shape, the cardinalities and the severities are checked. Every result of the inference is such a
schema, and encoding a schema and decoding it are inverse.
-/

namespace Schemata.Stored

structure Reference where
  table : Value
  column : Value

structure Column where
  name : Value
  dataType : Value
  nullable : Value
  primaryKey : Value
  foreignKey : Option Reference

structure Table where
  name : Value
  columns : List Column

structure Relationship where
  source : Reference
  target : Reference
  cardinality : Cardinality
  junctionTable : Value
  origin : Value

structure Diagnostic where
  message : Value
  statementIndex : Value
  severity : Severity
  statement : Value

/-- Tables and the relationships between them. -/
structure Schema where
  tables : List Table
  relationships : List Relationship

structure Result where
  schema : Schema
  junctionTables : List Value
  diagnostics : List Diagnostic

namespace Reference

def encode (reference : Reference) : Value :=
  .record [("table", reference.table), ("column", reference.column)]

def decode (value : Value) : Except AccessError Reference := do
  return { table := ← value.item "table".toList, column := ← value.item "column".toList }

def qualifiedName (reference : Reference) : Text :=
  reference.table.plainText ++ '.' :: reference.column.plainText

def same (one other : Reference) : Bool :=
  one.table == other.table && one.column == other.column

end Reference

namespace Column

def encode (column : Column) : Value :=
  .record [
    ("name", column.name), ("type", column.dataType), ("nullable", column.nullable),
    ("primary_key", column.primaryKey),
    ("foreign_key", (column.foreignKey.map Reference.encode).getD .null)]

def decode (value : Value) : Except AccessError Column := do
  let name ← value.item "name".toList
  let dataType ← value.getD "type".toList (.text [])
  let nullable ← value.getD "nullable".toList (.bool true)
  let primaryKey ← value.getD "primary_key".toList (.bool false)
  let reference ← value.getD "foreign_key".toList .null
  let foreignKey ← if reference.isGiven then some <$> Reference.decode reference else pure none
  return { name, dataType, nullable, primaryKey, foreignKey }

end Column

namespace Table

def encode (table : Table) : Value :=
  .record [("name", table.name), ("columns", .list (table.columns.map Column.encode))]

def decode (value : Value) : Except AccessError Table := do
  let name ← value.item "name".toList
  let columns ← (← (← value.getD "columns".toList (.list [])).elements).mapM Column.decode
  return { name, columns }

/-- The column of a name, by lower-case form. -/
def column? (table : Table) (name : Value) : Except AccessError (Option Column) := do
  let wanted ← name.lowered
  table.columns.findM? fun column => return (← column.name.lowered) == wanted

end Table

namespace Relationship

/-- The junction table is written only if there is one. -/
def encode (relationship : Relationship) : Value :=
  .record ([
    ("from", relationship.source.encode), ("to", relationship.target.encode),
    ("type", .text relationship.cardinality.label), ("origin", relationship.origin)] ++
    if relationship.junctionTable.isGiven then [("junction_table", relationship.junctionTable)] else [])

def decodeCardinality (value : Value) : Except AccessError Cardinality :=
  match value with
  | .text label =>
      match Cardinality.ofLabel? label with
      | some cardinality => return cardinality
      | none => throw (.notLabel value "Cardinality".toList)
  | _ => throw (.notLabel value "Cardinality".toList)

def decode (value : Value) : Except AccessError Relationship := do
  let source ← Reference.decode (← value.item "from".toList)
  let target ← Reference.decode (← value.item "to".toList)
  let cardinality ← decodeCardinality (← value.item "type".toList)
  let junctionTable ← value.getD "junction_table".toList .null
  let origin ← value.getD "origin".toList (.text "direct".toList)
  return { source, target, cardinality, junctionTable, origin }

/-- The four endpoint names. -/
def key (relationship : Relationship) : List Value :=
  [relationship.source.table, relationship.source.column,
   relationship.target.table, relationship.target.column]

def sortKey (relationship : Relationship) : SortKey :=
  (relationship.cardinality.priority, relationship.source.qualifiedName)

/-- Lists and mappings cannot name an endpoint. -/
def checkNames (relationship : Relationship) : Except AccessError Unit :=
  relationship.key.forM Value.checkKey

/-- Stored relationships as a report lists them. -/
def report (relationships : List Relationship) : Except AccessError (List Relationship) := do
  relationships.forM checkNames
  return distinctSorted key sortKey relationships

end Relationship

namespace Diagnostic

def encode (diagnostic : Diagnostic) : Value :=
  .record [
    ("message", diagnostic.message), ("statement_index", diagnostic.statementIndex),
    ("severity", .text diagnostic.severity.label), ("statement", diagnostic.statement)]

def decodeSeverity (value : Value) : Except AccessError Severity :=
  match value with
  | .text label =>
      match Severity.ofLabel? label with
      | some severity => return severity
      | none => throw (.notLabel value "Severity".toList)
  | _ => throw (.notLabel value "Severity".toList)

def decode (value : Value) : Except AccessError Diagnostic := do
  let message ← value.item "message".toList
  let statementIndex ← value.getD "statement_index".toList .null
  let severity ← decodeSeverity
    (← value.getD "severity".toList (.text Severity.warning.label))
  let statement ← value.getD "statement".toList .null
  return { message, statementIndex, severity, statement }

end Diagnostic

namespace Schema

def fields (schema : Schema) : List (String × Value) := [
  ("tables", .list (schema.tables.map Table.encode)),
  ("relationships", .list (schema.relationships.map Relationship.encode))]

def encode (schema : Schema) : Value :=
  .record schema.fields

def decode (value : Value) : Except AccessError Schema := do
  let tables ← (← (← value.getD "tables".toList (.list [])).elements).mapM Table.decode
  let relationships ←
    (← (← value.getD "relationships".toList (.list [])).elements).mapM Relationship.decode
  return { tables, relationships }

/-- The table of a name, by lower-case form. -/
def table? (schema : Schema) (name : Value) : Except AccessError (Option Table) := do
  let wanted ← name.lowered
  schema.tables.findM? fun table => return (← table.name.lowered) == wanted

/-- The relationships with a table on either end. -/
def relationshipsOf (schema : Schema) (name : Value) : Except AccessError (List Relationship) := do
  let wanted ← name.lowered
  schema.relationships.filterM fun relationship => do
    if (← relationship.source.table.lowered) == wanted then return true
    return (← relationship.target.table.lowered) == wanted

end Schema

namespace Result

def encode (result : Result) : Value :=
  .record (result.schema.fields ++ [
    ("junction_tables", .list result.junctionTables),
    ("diagnostics", .list (result.diagnostics.map Diagnostic.encode))])

def decode (value : Value) : Except AccessError Result := do
  let schema ← Schema.decode value
  let diagnostics ←
    (← (← value.getD "diagnostics".toList (.list [])).elements).mapM Diagnostic.decode
  let junctionTables ← (← value.getD "junction_tables".toList (.list [])).elements
  return { schema, junctionTables, diagnostics }

def isComplete (result : Result) : Bool :=
  result.diagnostics.all fun diagnostic => diagnostic.severity != .error

end Result

end Schemata.Stored

namespace Schemata

open Stored

def ColumnReference.stored (reference : ColumnReference) : Reference :=
  ⟨.text reference.table, .text reference.column⟩

def ForeignReference.stored (reference : ForeignReference) : Reference :=
  ⟨.ofText? reference.table, .text reference.column⟩

def Column.stored (column : Column) : Stored.Column where
  name := .text column.name
  dataType := .text column.dataType
  nullable := .bool column.nullable
  primaryKey := .bool column.primaryKey
  foreignKey := column.foreignKey.map ForeignReference.stored

def Table.stored (table : Table) : Stored.Table :=
  ⟨.text table.name, table.columns.map Column.stored⟩

def Relationship.stored (relationship : Relationship) : Stored.Relationship where
  source := relationship.source.stored
  target := relationship.target.stored
  cardinality := relationship.cardinality
  junctionTable := .ofText? relationship.junctionTable
  origin := .text relationship.origin.label

def Diagnostic.stored (diagnostic : Diagnostic) : Stored.Diagnostic where
  message := .text diagnostic.message
  statementIndex := .ofNat? diagnostic.statementIndex
  severity := diagnostic.severity
  statement := .ofText? diagnostic.statement

/-- A result of the inference as documents hold it. -/
def Result.stored (result : Result) : Stored.Result where
  schema := ⟨result.tables.map Table.stored, result.relationships.map Relationship.stored⟩
  junctionTables := result.junctionTables.map .text
  diagnostics := result.diagnostics.map Diagnostic.stored

end Schemata
