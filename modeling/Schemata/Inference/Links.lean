import Schemata.Config
import Schemata.Ddl.TableBody
import Schemata.Inference.Compatibility
import Schemata.Inference.Registry
import Schemata.Schema.Result

/-!
Relationships between the tables of a registry, from three sources: declared foreign keys, junction
tables and column names.
-/

namespace Schemata

open Ddl (Fault collect)

/-- One to one when the source column is a key by itself and the target column belongs to the
primary key of its table. -/
def Registry.cardinality (registry : Registry) (source target : ColumnReference) : Cardinality :=
  if registry.isPrimaryKeyColumn target.table target.column &&
      registry.hasSingleColumnKey source.table source.column then .oneToOne
  else .manyToOne

/-- The columns of a junction table's foreign keys make up its primary key. -/
def keysFormPrimaryKey (metadata : TableMetadata) : Bool :=
  let linked := metadata.foreignKeys.flatMap Constraint.columns
  let key := metadata.primaryKeyColumns
  !key.isEmpty && key.all linked.contains && linked.all key.contains

/-- A junction table has exactly two foreign keys, which make up its primary key, and few other
columns; audit columns do not count. -/
def isJunction (rules : Rules) (maxExtra : Int) (metadata : TableMetadata) : Except Fault Bool := do
  if metadata.foreignKeys.length ≠ 2 then return false
  if !keysFormPrimaryKey metadata then return false
  let linked := metadata.foreignKeys.flatMap Constraint.columns
  let others := metadata.table.columns.filter fun column => !linked.contains column.name
  let extra ← others.filterM fun column => return !(← rules.isAuditColumn column.name)
  return (extra.length : Int) ≤ maxExtra

/-- The names of the junction tables, in the order of the registry. -/
def junctionTables (rules : Rules) (maxExtra : Int) (registry : Registry) : Except Fault (List Text) := do
  let found ← registry.tables.filterM (isJunction rules maxExtra)
  return found.map TableMetadata.name

/-- A relationship for each column pair of the foreign keys of a table. -/
def foreignKeyLinks (registry : Registry) (metadata : TableMetadata) : List Relationship :=
  metadata.foreignKeys.flatMap fun foreignKey =>
    foreignKey.columnPairs.map fun (column, referenced) =>
      let source : ColumnReference := ⟨metadata.name, column⟩
      let target : ColumnReference := ⟨foreignKey.referencedTable.getD [], referenced⟩
      { source, target, cardinality := registry.cardinality source target }

/-- The relationships of the declared foreign keys, those of junction tables left out. -/
def directLinks (registry : Registry) (junctions : List Text) : List Relationship :=
  (registry.tables.filter fun metadata => !junctions.contains metadata.name).flatMap
    (foreignKeyLinks registry)

/-- The end of a junction that a foreign key leads to. -/
def junctionEnd (foreignKey : Constraint) : Option ColumnReference :=
  foreignKey.referencedColumns.head?.map fun column => ⟨foreignKey.referencedTable.getD [], column⟩

/-- The relationships that a junction table stands for. -/
def junctionLinksOf (mode : ManyToManyMode) (metadata : TableMetadata) : List Relationship :=
  match metadata.foreignKeys with
  | [first, second] =>
      match junctionEnd first, junctionEnd second with
      | some left, some right =>
          let link (source target : ColumnReference) : Relationship :=
            { source, target, cardinality := .manyToMany, junctionTable := some metadata.name,
              origin := .junction }
          match mode with
          | .single => [link left right]
          | .bidirectional => [link left right, link right left]
      | _, _ => []
  | _ => []

def junctionLinks (registry : Registry) (junctions : List Text) (mode : ManyToManyMode) :
    List Relationship :=
  (junctions.filterMap registry.get?).flatMap (junctionLinksOf mode)

/-- The stem of a column name that ends in `_id`. -/
def idStem (name : Text) : Option Text :=
  let line := if name.getLast? = some '\n' then name.dropLast else name
  let stem := line.take (line.length - 3)
  if stem.isEmpty || line.contains '\n' then none
  else if (Reader.keyword "_id".toList).accepts (line.drop (line.length - 3)) then some stem
  else none

/-- The relationship of a column to a candidate table, which is another table with a target column
of a compatible type. -/
def conventionLink (registry : Registry) (targetColumn : Text) (metadata : TableMetadata)
    (column : Column) (candidate : Text) : Option Relationship := do
  guard (candidate ≠ metadata.name)
  let found ← registry.get? candidate
  let key ← found.table.column? targetColumn
  guard (areTypesCompatible column.dataType key.dataType)
  let source : ColumnReference := ⟨metadata.name, column.name⟩
  let target : ColumnReference := ⟨found.name, key.name⟩
  return { source, target, cardinality := registry.cardinality source target, origin := .convention }

/-- The relationships of a column by its name; a column with a reference has none. -/
def conventionLinksOf (rules : Rules) (registry : Registry) (targetColumn : Text) :
    TableMetadata × Column → Except Fault (List Relationship)
  | (metadata, column) =>
      if column.foreignKey.isSome then return []
      else
        match idStem column.name with
        | none => return []
        | some stem => do
            let candidates ← rules.candidateTables stem
            return candidates.filterMap (conventionLink registry targetColumn metadata column)

/-- The relationships by column names, up to a breakdown of the rules. -/
def conventionLinks (rules : Rules) (registry : Registry) (targetColumn : Text) :
    List Relationship × Option Fault :=
  let columns := registry.tables.flatMap fun metadata =>
    metadata.table.columns.map fun column => (metadata, column)
  let (links, fault) := collect (conventionLinksOf rules registry targetColumn) columns
  (links.flatten, fault)

/-- Adds the relationships whose endpoints are not linked yet. -/
def addLinks (found links : List Relationship) : List Relationship :=
  links.foldl
    (fun found link => if found.any fun present => present.key == link.key then found else found ++ [link])
    found

/-- The passes over a registry. -/
inductive Pass
  | direct
  | junctions
  | conventions
deriving DecidableEq, Repr

/-- What the passes work on. -/
structure Engine where
  registry : Registry
  junctions : List Text
  config : Config
  rules : Rules

namespace Engine

/-- The engine over a registry with given junction tables, whose names are compared in lower case. -/
def ofRegistry (registry : Registry) (junctions : List Text) (config : Config) (rules : Rules) : Engine :=
  ⟨registry, junctions.map Text.lower, config, rules⟩

def links (engine : Engine) : Pass → List Relationship × Option Fault
  | .direct => (directLinks engine.registry engine.junctions, none)
  | .junctions => (junctionLinks engine.registry engine.junctions engine.config.manyToMany, none)
  | .conventions => conventionLinks engine.rules engine.registry engine.config.targetColumn

/-- Runs one pass after others. -/
def step (engine : Engine) (found : List Relationship) (pass : Pass) :
    List Relationship × Option Fault :=
  let (links, fault) := engine.links pass
  (addLinks found links, fault)

def passes (engine : Engine) : List Pass :=
  if engine.config.conventions then [.direct, .junctions, .conventions] else [.direct, .junctions]

/-- Runs passes in turn, up to a breakdown. -/
def runPasses (engine : Engine) (found : List Relationship) :
    List Pass → List Relationship × Option Fault
  | [] => (found, none)
  | pass :: rest =>
      match engine.step found pass with
      | (found, none) => runPasses engine found rest
      | (found, some fault) => (found, some fault)

/-- Runs all passes that the options ask for. -/
def run (engine : Engine) (found : List Relationship) : List Relationship × Option Fault :=
  engine.runPasses found engine.passes

end Engine

end Schemata
