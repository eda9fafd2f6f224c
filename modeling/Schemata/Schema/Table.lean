import Schemata.Schema.Constraint
import Schemata.Text.Case

/-!
Tables, and how their constraints show in the flags of their columns. Columns are found by name
without regard to case; of several that fit, the first one counts.
-/

namespace Schemata

/-- What a column refers to. The table is open for a foreign key that names none. -/
structure ForeignReference where
  table : Option Text
  column : Text
deriving DecidableEq, Repr

structure Column where
  name : Text
  dataType : Text
  nullable : Bool := true
  primaryKey : Bool := false
  foreignKey : Option ForeignReference := none
deriving DecidableEq, Repr

namespace Column

def isNamed (name : Text) (column : Column) : Bool :=
  Text.lower column.name == Text.lower name

def markKey (column : Column) : Column :=
  { column with primaryKey := true }

/-- A reference that is set already stays. -/
def refer (reference : ForeignReference) (column : Column) : Column :=
  { column with foreignKey := some (column.foreignKey.getD reference) }

end Column

structure Table where
  name : Text
  columns : List Column := []
deriving DecidableEq, Repr

/-- Changes the first element that fits. -/
def updateFirst {α : Type} (fits : α → Bool) (change : α → α) : List α → List α
  | [] => []
  | a :: rest => if fits a then change a :: rest else a :: updateFirst fits change rest

namespace Table

def column? (table : Table) (name : Text) : Option Column :=
  table.columns.find? (·.isNamed name)

def updateColumn (table : Table) (name : Text) (change : Column → Column) : Table :=
  { table with columns := updateFirst (·.isNamed name) change table.columns }

end Table

/-- A table with its constraints and indexes, in the order in which they were declared. -/
structure TableMetadata where
  table : Table
  constraints : List Constraint := []
  indexes : List IndexDefinition := []
deriving DecidableEq, Repr

namespace TableMetadata

def name (metadata : TableMetadata) : Text :=
  metadata.table.name

def primaryKey? (metadata : TableMetadata) : Option Constraint :=
  metadata.constraints.find? fun constraint => constraint.kind == .primaryKey

def primaryKeyColumns (metadata : TableMetadata) : List Text :=
  (metadata.primaryKey?.map Constraint.columns).getD []

def foreignKeys (metadata : TableMetadata) : List Constraint :=
  metadata.constraints.filter fun constraint => constraint.kind == .foreignKey

def uniqueConstraints (metadata : TableMetadata) : List Constraint :=
  metadata.constraints.filter fun constraint => constraint.kind == .unique

/-- Sets the references of the columns that a foreign key covers. -/
def applyForeignKey (table : Table) (foreignKey : Constraint) : Table :=
  foreignKey.columnPairs.foldl
    (fun table (column, referenced) =>
      table.updateColumn column (Column.refer ⟨foreignKey.referencedTable, referenced⟩))
    table

/-- Shows the constraints in the flags: the columns of the primary key are marked, and the first
foreign key of a column gives its reference. -/
def applyConstraintFlags (metadata : TableMetadata) : TableMetadata :=
  let keyed := metadata.primaryKeyColumns.foldl
    (fun table column => table.updateColumn column Column.markKey) metadata.table
  { metadata with table := metadata.foreignKeys.foldl applyForeignKey keyed }

end TableMetadata

end Schemata
