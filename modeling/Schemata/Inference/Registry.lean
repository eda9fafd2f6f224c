import Schemata.Schema.Table
import Schemata.Text.Quoted

/-!
The tables of a script by name, in the order in which they were registered. Names are compared
without regard to case. Constraints are values here; in memory they are objects, which tables may share (`Heap`), but
a run never gives one object to two tables.
-/

namespace Schemata

structure Registry where
  tables : List TableMetadata := []
deriving DecidableEq, Repr

inductive RegistryError
  | unknownTable (name : Text)
  | secondPrimaryKey (table : Text)
deriving DecidableEq, Repr

def RegistryError.message : RegistryError → Text
  | unknownTable name => Text.quoted name
  | secondPrimaryKey table => "Table ".toList ++ table ++ " already has a primary key".toList

namespace Registry

def hasName (name : Text) (metadata : TableMetadata) : Bool :=
  Text.lower metadata.name == Text.lower name

def get? (registry : Registry) (name : Text) : Option TableMetadata :=
  registry.tables.find? (hasName name)

def contains (registry : Registry) (name : Text) : Bool :=
  registry.tables.any (hasName name)

/-- Adds a table. The first of a name wins, and the answer tells whether this one did. -/
def register (registry : Registry) (metadata : TableMetadata) : Registry × Bool :=
  if registry.contains metadata.name then (registry, false)
  else (⟨registry.tables ++ [metadata]⟩, true)

def update (registry : Registry) (name : Text) (change : TableMetadata → TableMetadata) : Registry :=
  ⟨updateFirst (hasName name) change registry.tables⟩

/-- Attaches a constraint to a table, which may have one primary key. -/
def addConstraint (registry : Registry) (name : Text) (constraint : Constraint) :
    Except RegistryError Registry :=
  match registry.get? name with
  | none => throw (.unknownTable name)
  | some metadata =>
      if constraint.kind = .primaryKey ∧ metadata.primaryKey?.isSome then
        throw (.secondPrimaryKey metadata.name)
      else
        return registry.update name fun metadata =>
          { metadata with constraints := metadata.constraints ++ [constraint] }.applyConstraintFlags

def addIndex (registry : Registry) (name : Text) (index : IndexDefinition) :
    Except RegistryError Registry :=
  match registry.get? name with
  | none => throw (.unknownTable name)
  | some _ =>
      return registry.update name fun metadata =>
        { metadata with indexes := metadata.indexes ++ [index] }

def isImplicit (constraint : Constraint) : Bool :=
  constraint.kind == .foreignKey && constraint.referencedColumns.isEmpty

/-- The columns that a foreign key without columns refers to: the primary key of its table if that
has as many columns, and `id` otherwise. -/
def implicitColumns (registry : Registry) (foreignKey : Constraint) : List Text :=
  let key := ((registry.get? (foreignKey.referencedTable.getD [])).map
    TableMetadata.primaryKeyColumns).getD []
  if key.length = foreignKey.columns.length ∧ key ≠ [] then key else ["id".toList]

def complete (registry : Registry) (constraint : Constraint) : Constraint :=
  if isImplicit constraint then
    { constraint with referencedColumns := registry.implicitColumns constraint }
  else constraint

def completeTable (registry : Registry) (metadata : TableMetadata) : TableMetadata :=
  if metadata.constraints.any isImplicit then
    { metadata with constraints := metadata.constraints.map registry.complete }.applyConstraintFlags
  else metadata

/-- Gives every foreign key its referenced columns. -/
def resolveImplicitReferences (registry : Registry) : Registry :=
  ⟨registry.tables.map registry.completeTable⟩

def isPrimaryKeyColumn (registry : Registry) (table column : Text) : Bool :=
  match registry.get? table with
  | none => false
  | some metadata => metadata.primaryKeyColumns.contains (Text.lower column)

/-- The column alone is a primary key or unique. -/
def hasSingleColumnKey (registry : Registry) (table column : Text) : Bool :=
  match registry.get? table with
  | none => false
  | some metadata => metadata.constraints.any fun constraint =>
      (constraint.kind == .primaryKey || constraint.kind == .unique) &&
        constraint.columns == [Text.lower column]

end Registry

end Schemata
