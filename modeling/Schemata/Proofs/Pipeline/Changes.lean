import Schemata.Proofs.Inference.Distinct
import Schemata.Proofs.Inference.References
import Schemata.Proofs.Pipeline.Statements
import Mathlib.Data.List.Find

/-!
The tables of a script one by one. Each is what the first accepted table statement of its name gives,
with the changes that name it applied in their order; so its foreign keys are those of the body,
followed by those that the changes add.
-/

namespace Schemata

open Ddl (Dialect Reading StatementKind foreignKeysIn)
open Text (InLowerCase)

namespace TableMetadata

/-- A table after a change, which only bears on the table that it names. -/
def change (metadata : TableMetadata) (reading : Reading) : TableMetadata :=
  if Registry.hasName (reading.tableName.getD []) metadata then
    match reading.indexDefinition with
    | some index => metadata.withIndex index
    | none => reading.constraints.foldl take metadata
  else metadata

theorem foldl_take_name (metadata : TableMetadata) (constraints : List Constraint) :
    (constraints.foldl take metadata).name = metadata.name := by
  induction constraints generalizing metadata with
  | nil => rfl
  | cons constraint rest ih => rw [List.foldl_cons, ih, take_name]

@[simp] theorem change_name (metadata : TableMetadata) (reading : Reading) :
    (metadata.change reading).name = metadata.name := by
  unfold change
  split
  · split
    · rfl
    · exact foldl_take_name metadata reading.constraints
  · rfl

theorem foldl_change_name (metadata : TableMetadata) (changes : List Reading) :
    (changes.foldl change metadata).name = metadata.name := by
  induction changes generalizing metadata with
  | nil => rfl
  | cons reading rest ih => rw [List.foldl_cons, ih, change_name]

theorem foldl_take_consistent {constraints : List Constraint}
    (normal : ∀ constraint ∈ constraints, constraint.IsNormal) {metadata : TableMetadata}
    (consistent : metadata.Consistent) : (constraints.foldl take metadata).Consistent := by
  induction constraints generalizing metadata with
  | nil => exact consistent
  | cons constraint rest ih =>
      exact ih (fun other member => normal other (List.mem_cons_of_mem constraint member))
        (consistent.take (normal constraint (List.mem_cons_self ..)))

theorem foldl_take_foreignKeys (metadata : TableMetadata) (constraints : List Constraint) :
    (constraints.foldl take metadata).foreignKeys =
      metadata.foreignKeys ++ constraints.filter fun constraint => constraint.kind == .foreignKey := by
  induction constraints generalizing metadata with
  | nil => simp
  | cons constraint rest ih =>
      rw [List.foldl_cons, ih, take_foreignKeys, List.append_assoc, ← List.filter_append]
      rfl

theorem change_consistent {reading : Reading} (normal : reading.IsNormal) {metadata : TableMetadata}
    (consistent : metadata.Consistent) : (metadata.change reading).Consistent := by
  unfold change
  split
  · split
    · -- An index shows in no column.
      exact ⟨⟨consistent.name, consistent.columns, consistent.distinct, consistent.constraints⟩,
        consistent.shown⟩
    · exact foldl_take_consistent normal.constraints consistent
  · exact consistent

theorem foldl_change_consistent {changes : List Reading} (normal : ∀ reading ∈ changes, reading.IsNormal)
    {metadata : TableMetadata} (consistent : metadata.Consistent) :
    (changes.foldl change metadata).Consistent := by
  induction changes generalizing metadata with
  | nil => exact consistent
  | cons reading rest ih =>
      exact ih (fun other member => normal other (List.mem_cons_of_mem reading member))
        (change_consistent (normal reading (List.mem_cons_self ..)) consistent)

end TableMetadata

namespace Ddl.Reading

def addedKeys (table : Text) (reading : Reading) : List Constraint :=
  if reading.tableName = some table then
    reading.constraints.filter fun constraint => constraint.kind == .foreignKey
  else []

end Ddl.Reading

namespace TableMetadata

theorem change_foreignKeys {reading : Reading} (normal : reading.IsNormal) {metadata : TableMetadata}
    (lower : InLowerCase metadata.name) :
    (metadata.change reading).foreignKeys = metadata.foreignKeys ++ reading.addedKeys metadata.name := by
  obtain ⟨table, named, tableLower⟩ := normal.table
  have same : Registry.hasName (reading.tableName.getD []) metadata = true ↔
      reading.tableName = some metadata.name := by
    rw [named, Option.getD_some, Registry.hasName, lower, tableLower, beq_iff_eq, Option.some_inj]
    exact eq_comm
  unfold change Reading.addedKeys
  simp only [same]
  split
  · split
    · rename_i index indexed
      rw [normal.index (by simp [indexed]), List.filter_nil, List.append_nil]
      rfl
    · exact foldl_take_foreignKeys metadata reading.constraints
  · exact (List.append_nil _).symm

theorem foldl_change_foreignKeys {changes : List Reading} (normal : ∀ reading ∈ changes, reading.IsNormal)
    {metadata : TableMetadata} (lower : InLowerCase metadata.name) :
    (changes.foldl change metadata).foreignKeys =
      metadata.foreignKeys ++ changes.flatMap (Reading.addedKeys metadata.name) := by
  induction changes generalizing metadata with
  | nil => simp
  | cons reading rest ih =>
      have first := change_foreignKeys (normal reading (List.mem_cons_self ..)) lower
      have later := ih (fun other member => normal other (List.mem_cons_of_mem reading member))
        (show InLowerCase (metadata.change reading).name by rwa [change_name])
      rw [List.foldl_cons, later, first, change_name, List.flatMap_cons, List.append_assoc]

end TableMetadata

namespace Pipeline

variable {registry : Registry}

theorem takeConstraint_tables (distinct : registry.Distinct) (table : Text) (constraint : Constraint) :
    (takeConstraint table registry constraint).tables =
      registry.tables.map fun metadata =>
        if Registry.hasName table metadata then metadata.take constraint else metadata :=
  Registry.addConstraint_tables distinct table constraint

theorem foldl_takeConstraint_tables (distinct : registry.Distinct) (table : Text)
    (constraints : List Constraint) :
    (constraints.foldl (takeConstraint table) registry).tables =
      registry.tables.map fun metadata =>
        if Registry.hasName table metadata then constraints.foldl TableMetadata.take metadata
        else metadata := by
  induction constraints generalizing registry with
  | nil => simp
  | cons constraint rest ih =>
      have tables := takeConstraint_tables distinct table constraint
      have kept : (takeConstraint table registry constraint).Distinct := by
        rw [Registry.Distinct, tables]
        exact distinct.map fun metadata => by split <;> simp
      rw [List.foldl_cons, ih kept, tables, List.map_map]
      refine List.map_congr_left fun metadata _ => ?_
      simp only [Function.comp_apply]
      cases named : Registry.hasName table metadata
      · simp [named]
      · -- Taking a constraint leaves the name, so the constraints that follow meet the same table.
        have still : Registry.hasName table (metadata.take constraint) = true := by
          simpa [Registry.hasName] using named
        simp [still]

/-- A change to a registry is a change to each of its tables. -/
theorem applyChange_tables (distinct : registry.Distinct) (reading : Reading) :
    (applyChange registry reading).tables = registry.tables.map fun metadata => metadata.change reading := by
  unfold applyChange TableMetadata.change
  dsimp only
  split
  · rename_i unknown
    rw [Bool.not_eq_true', Registry.contains, List.any_eq_false] at unknown
    exact (Registry.map_of_get?_eq_none (List.find?_eq_none.mpr unknown) _).symm
  · cases reading.indexDefinition with
    | some index => exact Registry.addIndex_tables distinct _ index
    | none => exact foldl_takeConstraint_tables distinct _ reading.constraints

theorem foldl_applyChange_tables (distinct : registry.Distinct) (changes : List Reading) :
    (changes.foldl applyChange registry).tables =
      registry.tables.map fun metadata => changes.foldl TableMetadata.change metadata := by
  induction changes generalizing registry with
  | nil => simp
  | cons reading rest ih =>
      have tables := applyChange_tables distinct reading
      have kept : (applyChange registry reading).Distinct := by
        rw [Registry.Distinct, tables]
        exact distinct.map fun metadata => metadata.change_name reading
      rw [List.foldl_cons, ih kept, tables, List.map_map]
      rfl

/-- The tables that are registered are the first ones of their names. -/
theorem foldl_enterTable_tables (registry : Registry) (readings : List Reading) :
    (readings.foldl enterTable registry).tables =
      registry.tables ++ firstOfEach (fun metadata => Text.lower metadata.name)
        (registry.tables.map fun metadata => Text.lower metadata.name)
        (readings.filterMap Reading.metadata) := by
  induction readings generalizing registry with
  | nil => simp [firstOfEach]
  | cons reading rest ih =>
      rw [List.foldl_cons, ih]
      cases found : reading.metadata with
      | none => simp [enterTable, found]
      | some metadata =>
          have present : registry.contains metadata.name =
              (registry.tables.map fun metadata => Text.lower metadata.name).contains
                (Text.lower metadata.name) := by
            rw [Bool.eq_iff_iff]
            simp [Registry.contains, Registry.hasName]
          rw [List.filterMap_cons_some found, firstOfEach, ← present]
          unfold enterTable Registry.register
          simp only [found]
          split
          · rfl
          · rw [List.append_assoc, List.singleton_append, List.map_append, List.map_singleton]
            refine congrArg (registry.tables ++ metadata :: ·) (firstOfEach_congr _ _ fun name => ?_)
            simp only [List.mem_append, List.mem_cons, List.not_mem_nil, or_false]
            exact or_comm

section Script

variable {dialect : Dialect} {kindOf : Text → StatementKind}

theorem arises_readingOf (dialect : Dialect) (kindOf : Text → StatementKind) (statement : Text) :
    Reading.Arises dialect statement 0 (kindOf statement) (readingOf dialect kindOf statement) :=
  Reading.arises_ofKind ..

theorem readingOf_isNormal (normal : dialect.IsNormal) {statement : Text}
    (changes : (readingOf dialect kindOf statement).changes = true) :
    (readingOf dialect kindOf statement).IsNormal := by
  have arises := arises_readingOf dialect kindOf statement
  simp only [Reading.changes, Bool.and_eq_true, Bool.or_eq_true, beq_iff_eq, arises.kind_eq] at changes
  exact arises.isNormal normal changes.2 changes.1

/-- An accepted table statement gives a consistent table with the foreign keys of its body. -/
theorem readingOf_consistent (normal : dialect.IsNormal) {statement : Text}
    (creates : (readingOf dialect kindOf statement).creates = true) :
    ∃ metadata, (readingOf dialect kindOf statement).metadata = some metadata ∧
      metadata.Consistent ∧ metadata.foreignKeys = foreignKeysIn dialect statement := by
  have arises := arises_readingOf dialect kindOf statement
  simp only [Reading.creates, Bool.and_eq_true, beq_iff_eq, arises.kind_eq] at creates
  rw [creates.2] at arises
  exact arises.consistent normal creates.1

/-- The tables of a registry are the first ones of their names, with the changes applied to each. -/
theorem registryOf_tables (tables changes : List Reading) :
    (registryOf tables changes).tables =
      (firstOfEach (fun metadata => Text.lower metadata.name) []
        (tables.filterMap Reading.metadata)).map fun metadata =>
          changes.foldl TableMetadata.change metadata := by
  have entered := foldl_enterTable_tables {} tables
  have distinct : (tables.foldl enterTable {}).Distinct := by
    rw [Registry.Distinct, entered]
    exact nodup_map_firstOfEach
  rw [registryOf, foldl_applyChange_tables distinct, entered]
  rfl

theorem registryOf_distinct (tables changes : List Reading) : (registryOf tables changes).Distinct := by
  have first : Registry.Distinct ⟨firstOfEach (fun metadata => Text.lower metadata.name) []
      (tables.filterMap Reading.metadata)⟩ := nodup_map_firstOfEach
  rw [Registry.Distinct, registryOf_tables]
  exact first.map fun metadata => metadata.foldl_change_name changes

variable (dialect kindOf)

/-- The registry of a script, with the references as they were written. -/
def registryIn (script : Text) : Registry :=
  registryOf ((tableStatements dialect script).map (readingOf dialect kindOf))
    ((changeStatements dialect script).map (readingOf dialect kindOf))

def defines (table statement : Text) : Bool :=
  (readingOf dialect kindOf statement).metadata.any fun metadata => metadata.name == table

/-- The foreign keys that a script declares for a table: those in the body of the first accepted table
statement of its name, in the order of the text, and those that changes add, in the order of the
script. -/
def declaredKeys (script table : Text) : List Constraint :=
  (((tableStatements dialect script).find? (defines dialect kindOf table)).map
      (foreignKeysIn dialect)).getD [] ++
    ((changeStatements dialect script).map (readingOf dialect kindOf)).flatMap
      (Reading.addedKeys table)

variable {dialect kindOf} (classifies : ∀ statement, dialect.classify statement = .ok (kindOf statement))
  {script : Text}
include classifies

theorem creates_of_mem_tableStatements {statement : Text}
    (member : statement ∈ tableStatements dialect script) :
    (readingOf dialect kindOf statement).creates = true := by
  have accepted := (List.mem_filter.mp member).2
  rw [read_eq classifies] at accepted
  exact accepted

theorem changes_of_mem_changeStatements {statement : Text}
    (member : statement ∈ changeStatements dialect script) :
    (readingOf dialect kindOf statement).changes = true := by
  have accepted := (List.mem_filter.mp member).2
  rw [read_eq classifies] at accepted
  exact accepted

theorem exists_statement_of_mem (normal : dialect.IsNormal) {metadata : TableMetadata}
    (member : metadata ∈ firstOfEach (fun metadata => Text.lower metadata.name) []
      (((tableStatements dialect script).map (readingOf dialect kindOf)).filterMap Reading.metadata)) :
    ∃ statement, (tableStatements dialect script).find? (defines dialect kindOf metadata.name) =
        some statement ∧
      metadata.Consistent ∧ metadata.foreignKeys = foreignKeysIn dialect statement := by
  have made : ∀ statement ∈ tableStatements dialect script, ∃ metadata,
      (readingOf dialect kindOf statement).metadata = some metadata ∧
        metadata.Consistent ∧ metadata.foreignKeys = foreignKeysIn dialect statement :=
    fun statement inside => readingOf_consistent normal (creates_of_mem_tableStatements classifies inside)
  rw [List.filterMap_map] at member
  have first := find?_of_mem_firstOfEach member
  rw [List.find?_filterMap, Option.bind_eq_some_iff] at first
  obtain ⟨statement, found, given⟩ := first
  obtain ⟨other, same, consistent, keys⟩ := made statement (List.mem_of_find?_eq_some found)
  obtain rfl : metadata = other := Option.some_inj.mp (given.symm.trans same)
  refine ⟨statement, ?_, consistent, keys⟩
  rw [← found]
  refine List.find?_congr fun candidate inside => ?_
  obtain ⟨rival, rivalMade, rivalConsistent, _⟩ := made candidate inside
  have lower : Text.lower metadata.name = metadata.name := consistent.name
  have rivalLower : Text.lower rival.name = rival.name := rivalConsistent.name
  simp only [defines, Function.comp_apply, rivalMade, Option.any_some, lower, rivalLower]

/-- The tables of a script are consistent, and their foreign keys are those that it declares. -/
theorem consistent_of_mem_registryIn (normal : dialect.IsNormal) {metadata : TableMetadata}
    (member : metadata ∈ (registryIn dialect kindOf script).tables) :
    metadata.Consistent ∧
      metadata.foreignKeys = declaredKeys dialect kindOf script metadata.name := by
  have changes : ∀ reading ∈ (changeStatements dialect script).map (readingOf dialect kindOf),
      reading.IsNormal := by
    intro reading inside
    obtain ⟨statement, listed, rfl⟩ := List.mem_map.mp inside
    exact readingOf_isNormal normal (changes_of_mem_changeStatements classifies listed)
  rw [registryIn, registryOf_tables] at member
  obtain ⟨first, registered, rfl⟩ := List.mem_map.mp member
  obtain ⟨statement, found, consistent, keys⟩ := exists_statement_of_mem classifies normal registered
  refine ⟨TableMetadata.foldl_change_consistent changes consistent, ?_⟩
  rw [TableMetadata.foldl_change_foreignKeys changes consistent.name, TableMetadata.foldl_change_name,
    declaredKeys, found, keys]
  rfl

end Script

end Pipeline

end Schemata
