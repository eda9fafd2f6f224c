import Schemata.Proofs.Inference.Engine
import Schemata.Proofs.Pipeline.Changes

/-!
The flags of the columns against the relationships. Both tell the foreign keys of the tables, the one
column by column while the tables are built, the other edge by edge when they are complete.
-/

namespace Schemata

open Ddl (Dialect)
open Text (InLowerCase)

/-- The column is in a table of the result, where the reference says. -/
def Result.Holds (result : Result) (reference : ColumnReference) (column : Column) : Prop :=
  ∃ table ∈ result.tables, table.name = reference.table ∧ column ∈ table.columns ∧
    column.name = reference.column

/-- The flags and the relationships of a result agree: outside the junction tables, each reference of
a column is one direct relationship; a junction table is the source of none; direct relationships
start at tables of the result and not at columns without a reference; and relationships by convention
relate columns of the result, from one without a reference. -/
structure Result.Agrees (result : Result) : Prop where
  told : ∀ table ∈ result.tables, table.name ∉ result.junctionTables →
    ∀ column ∈ table.columns, ∀ reference, column.foreignKey = some reference →
      ∃ target link, reference.table = some target ∧
        result.relationships.filter
          (·.key == (⟨table.name, column.name⟩, ⟨target, reference.column⟩)) = [link] ∧
        link.origin = .direct
  junctions : ∀ table ∈ result.tables, table.name ∈ result.junctionTables →
    ∀ link ∈ result.relationships, link.origin = .direct → link.source.table ≠ table.name
  direct : ∀ link ∈ result.relationships, link.origin = .direct →
    (∃ table ∈ result.tables, table.name = link.source.table) ∧
      ∀ column, result.Holds link.source column → column.foreignKey ≠ none
  convention : ∀ link ∈ result.relationships, link.origin = .convention →
    (∃ column, result.Holds link.source column) ∧ (∃ column, result.Holds link.target column) ∧
      ∀ column, result.Holds link.source column → column.foreignKey = none

namespace Registry

/-- A registry whose foreign keys are complete and show in the columns. -/
structure IsComplete (registry : Registry) : Prop where
  distinct : registry.Distinct
  wellFormed : ∀ metadata ∈ registry.tables, metadata.WellFormed
  unreferenced : ∀ metadata ∈ registry.tables, ∀ column ∈ metadata.table.columns,
    (column.foreignKey = none ↔ ∀ key ∈ metadata.foreignKeys, column.name ∉ key.columns)
  referenced : ∀ metadata ∈ registry.tables, ∀ column ∈ metadata.table.columns,
    ∀ reference, column.foreignKey = some reference →
      ∃ key ∈ metadata.foreignKeys, key.Pairs column.name reference.column ∧
        reference.table = key.referencedTable

theorem resolveImplicitReferences_isComplete {registry : Registry} (distinct : registry.Distinct)
    (consistent : ∀ metadata ∈ registry.tables, metadata.Consistent) :
    registry.resolveImplicitReferences.IsComplete where
  distinct := distinct.map fun _ => completeTable_name registry
  wellFormed metadata member := by
    obtain ⟨old, present, rfl⟩ := List.mem_map.mp member
    exact registry.completeTable_wellFormed (consistent old present).toWellFormed
  unreferenced metadata member column inside := by
    obtain ⟨old, present, rfl⟩ := List.mem_map.mp member
    exact registry.foreignKey_eq_none_iff (consistent old present) inside
  referenced metadata member column inside reference refers := by
    obtain ⟨old, present, rfl⟩ := List.mem_map.mp member
    exact registry.exists_key_of_foreignKey (consistent old present) inside refers

variable {registry : Registry}

theorem IsComplete.eq_of_name (complete : registry.IsComplete) {one other : TableMetadata}
    (oneIn : one ∈ registry.tables) (otherIn : other ∈ registry.tables) (same : one.name = other.name) :
    one = other :=
  List.inj_on_of_nodup_map complete.distinct oneIn otherIn (congrArg Text.lower same)

theorem IsComplete.eq_of_columnName (complete : registry.IsComplete) {metadata : TableMetadata}
    (member : metadata ∈ registry.tables) {one other : Column} (oneIn : one ∈ metadata.table.columns)
    (otherIn : other ∈ metadata.table.columns) (same : one.name = other.name) : one = other :=
  List.inj_on_of_nodup_map (complete.wellFormed metadata member).distinct oneIn otherIn
    (congrArg Text.lower same)

end Registry

namespace Pipeline

def junctionsOf (config : Config) (registry : Registry) : List Text :=
  (registry.tables.filter config.isJunctionTable).map TableMetadata.name

/-- Under plain options nothing breaks off. -/
theorem infer_rules (config : Config) (registry : Registry) (diagnostics : List Diagnostic) :
    infer config config.rules registry diagnostics =
      { tables := registry.tables.map TableMetadata.table
        relationships := Relationship.report
          (registry.found ((junctionsOf config registry).map Text.lower) config)
        junctionTables := junctionsOf config registry
        diagnostics } := by
  unfold infer
  rw [junctionTables_rules]
  dsimp only
  rw [run_rules]
  simp [tablesOf, junctionsOf]

theorem map_lower_junctionsOf {registry : Registry}
    (lower : ∀ metadata ∈ registry.tables, InLowerCase metadata.name) (config : Config) :
    (junctionsOf config registry).map Text.lower = junctionsOf config registry := by
  rw [junctionsOf, List.map_map]
  exact List.map_congr_left fun metadata member => lower metadata (List.mem_of_mem_filter member)

variable {registry : Registry} {junctions : List Text} {config : Config} {links : List Relationship}

section Inferred

variable (complete : registry.IsComplete) (inferred : Inferred registry junctions config links)
include complete inferred

/-- A reference outside the junction tables is told once. -/
theorem told_of_inferred {metadata : TableMetadata} (member : metadata ∈ registry.tables)
    (outside : metadata.name ∉ junctions) {column : Column} (present : column ∈ metadata.table.columns)
    {reference : ForeignReference} (refers : column.foreignKey = some reference) :
    ∃ target link, reference.table = some target ∧
      links.filter (·.key == (⟨metadata.name, column.name⟩, ⟨target, reference.column⟩)) = [link] ∧
      link.origin = .direct := by
  obtain ⟨key, declared, pairs, table⟩ := complete.referenced metadata member column present reference refers
  obtain ⟨target, named⟩ := ((complete.wellFormed metadata member).foreignKeys key declared).target
    (TableMetadata.kind_of_mem_foreignKeys declared)
  have declares : registry.Declares junctions
      (⟨metadata.name, column.name⟩, ⟨target, reference.column⟩) :=
    ⟨metadata, member, outside, key, declared, column.name, reference.column, pairs, by rw [named]; rfl⟩
  obtain ⟨link, listed, same⟩ := List.mem_map.mp ((inferred.complete _).mpr (Or.inl declares))
  refine ⟨target, link, table.trans named, ?_, ?_⟩
  · rw [← same]
    exact filter_eq_singleton inferred.distinct listed
  · rw [← same] at declares
    exact (inferred.declared link listed declares).1

omit complete in
theorem source_ne_of_junction {name : Text} (junction : name ∈ junctions) {link : Relationship}
    (listed : link ∈ links) (direct : link.origin = .direct) : link.source.table ≠ name := by
  obtain ⟨metadata, _, outside, key, _, column, referenced, _, same⟩ :=
    inferred.declares_of_direct listed direct
  have source : link.source = ⟨metadata.name, column⟩ := congrArg Prod.fst same
  rw [source]
  rintro rfl
  exact outside junction

theorem source_of_direct {link : Relationship} (listed : link ∈ links) (direct : link.origin = .direct) :
    ∃ metadata ∈ registry.tables, metadata.name = link.source.table ∧
      ∀ column ∈ metadata.table.columns, column.name = link.source.column → column.foreignKey ≠ none := by
  obtain ⟨metadata, member, _, key, declared, name, referenced, pairs, same⟩ :=
    inferred.declares_of_direct listed direct
  have source : link.source = ⟨metadata.name, name⟩ := congrArg Prod.fst same
  rw [source]
  refine ⟨metadata, member, rfl, fun column present named free => ?_⟩
  have uncovered := (complete.unreferenced metadata member column present).mp free key declared
  rw [named] at uncovered
  exact uncovered (Constraint.mem_columns_of_pairs pairs)

omit complete in
theorem ends_of_convention {link : Relationship} (listed : link ∈ links)
    (convention : link.origin = .convention) :
    (∃ metadata ∈ registry.tables, metadata.name = link.source.table ∧
      ∃ column ∈ metadata.table.columns, column.name = link.source.column ∧ column.foreignKey = none) ∧
    ∃ metadata ∈ registry.tables, metadata.name = link.target.table ∧
      ∃ column ∈ metadata.table.columns, column.name = link.target.column := by
  obtain ⟨metadata, member, column, present, free, _, _, _, _, _, found, lookup, target, targeted, _,
    same⟩ := inferred.suggests_of_convention listed convention
  have source : link.source = ⟨metadata.name, column.name⟩ := congrArg Prod.fst same
  have target' : link.target = ⟨found.name, target.name⟩ := congrArg Prod.snd same
  rw [source, target']
  exact ⟨⟨metadata, member, rfl, column, present, rfl, free⟩,
    ⟨found, List.mem_of_find?_eq_some lookup, rfl, target, List.mem_of_find?_eq_some targeted, rfl⟩⟩

end Inferred

theorem infer_agrees (complete : registry.IsComplete) (config : Config) (diagnostics : List Diagnostic) :
    (infer config config.rules registry diagnostics).Agrees := by
  have inferred := inferred_report_found registry (junctionsOf config registry) config
  rw [infer_rules, map_lower_junctionsOf fun metadata member => (complete.wellFormed metadata member).name]
  refine ⟨?_, ?_, ?_, ?_⟩
  · intro table member outside column present reference refers
    obtain ⟨metadata, registered, rfl⟩ := List.mem_map.mp member
    exact told_of_inferred complete inferred registered outside present refers
  · intro table _ junction link listed direct
    exact source_ne_of_junction inferred junction listed direct
  · intro link listed direct
    obtain ⟨metadata, registered, source, refers⟩ := source_of_direct complete inferred listed direct
    refine ⟨⟨metadata.table, List.mem_map_of_mem registered, source⟩, ?_⟩
    rintro column ⟨table, member, name, present, columnName⟩
    obtain ⟨other, otherIn, rfl⟩ := List.mem_map.mp member
    obtain rfl := complete.eq_of_name otherIn registered (name.trans source.symm)
    exact refers column present columnName
  · intro link listed convention
    obtain ⟨⟨metadata, registered, source, column, present, columnName, free⟩,
      ⟨found, foundIn, target, key, keyIn, keyName⟩⟩ := ends_of_convention inferred listed convention
    refine ⟨⟨column, metadata.table, List.mem_map_of_mem registered, source, present, columnName⟩,
      ⟨key, found.table, List.mem_map_of_mem foundIn, target, keyIn, keyName⟩, ?_⟩
    rintro other ⟨table, member, name, otherPresent, otherName⟩
    obtain ⟨owner, ownerIn, rfl⟩ := List.mem_map.mp member
    obtain rfl := complete.eq_of_name ownerIn registered (name.trans source.symm)
    obtain rfl := complete.eq_of_columnName registered otherPresent present (otherName.trans columnName.symm)
    exact free

theorem resolved_isComplete (script : Text) :
    (registryIn Dialect.standard Ddl.classify script).resolveImplicitReferences.IsComplete := by
  refine Registry.resolveImplicitReferences_isComplete (registryOf_distinct _ _) fun metadata member => ?_
  exact (consistent_of_mem_registryIn Dialect.standard_classifies
    (Ddl.withClassifiers_isNormal _ _) member).1

/-- The flags and the relationships of every schema agree. -/
theorem inferSchema_agrees (config : Config) (script : Text) : (inferSchema config script).Agrees := by
  obtain ⟨diagnostics, ran⟩ := run_eq_infer Dialect.standard_classifies config config.rules script
  rw [inferSchema, ran]
  exact infer_agrees (resolved_isComplete script) config diagnostics

end Pipeline

end Schemata
