import Schemata.Proofs.Pipeline.Changes

/-!
Which of its foreign keys a column shows. A foreign key that leaves its referenced columns open is
completed when all tables are known, and by then a later one that wrote them has been shown already.
-/

namespace Schemata

open Ddl (Dialect)

namespace Constraint

def covers (column : Text) (foreignKey : Constraint) : Bool :=
  foreignKey.columns.contains column

def isExplicit (foreignKey : Constraint) : Bool :=
  !foreignKey.referencedColumns.isEmpty

theorem isSome_referenceOf (foreignKey : Constraint) (column : Text) :
    (foreignKey.referenceOf column).isSome = (foreignKey.covers column && foreignKey.isExplicit) := by
  rw [Bool.eq_iff_iff, Option.isSome_iff_ne_none, ne_eq, referenceOf_eq_none]
  simp [covers, isExplicit, and_comm]

end Constraint

/-- How a column follows the foreign keys that are declared for its table. It refers to nothing
exactly if none covers it. The first one that covers it with written columns decides, and the first
one that covers it, completed, where there is none with written columns. So the first one that covers
it decides unless a later one with written columns leads elsewhere. -/
structure Column.FollowsKeys (column : Column) (keys : List Constraint)
    (complete : Constraint → Constraint) : Prop where
  unreferenced : column.foreignKey = none ↔ ∀ key ∈ keys, column.name ∉ key.columns
  written : ∀ key, keys.find? (fun key => key.covers column.name && key.isExplicit) = some key →
    column.foreignKey = key.referenceOf column.name
  completed : (∀ key ∈ keys, key.covers column.name = true → key.isExplicit = false) →
    ∀ key, keys.find? (Constraint.covers column.name) = some key →
      column.foreignKey = (complete key).referenceOf column.name
  first : ∀ key, keys.find? (Constraint.covers column.name) = some key →
    (column.foreignKey = (complete key).referenceOf column.name ↔
      ∀ other, keys.find? (fun key => key.covers column.name && key.isExplicit) = some other →
        other.referenceOf column.name = (complete key).referenceOf column.name)

theorem findSome?_eq_bind_find? {α β : Type} {f : α → Option β} {fits : α → Bool} {list : List α}
    (given : ∀ a ∈ list, (f a).isSome = fits a) : list.findSome? f = (list.find? fits).bind f := by
  induction list with
  | nil => rfl
  | cons a rest ih =>
      have here := given a (List.mem_cons_self ..)
      rw [List.findSome?_cons, List.find?_cons, ← here, ih fun b member => given b (List.mem_cons_of_mem a member)]
      cases found : f a <;> simp [found]

namespace Registry

variable (registry : Registry) {metadata : TableMetadata}

/-- A column of a completed table shows the first reference of a key with written columns, and else
the first of a completed key. -/
theorem foreignKey_eq_or (consistent : metadata.Consistent)
    {column : Column} (member : column ∈ (registry.completeTable metadata).table.columns) :
    column.foreignKey =
      ((metadata.foreignKeys.find? fun key => key.covers column.name && key.isExplicit).bind fun key =>
        key.referenceOf column.name).or
      ((metadata.foreignKeys.find? (Constraint.covers column.name)).bind fun key =>
        (registry.complete key).referenceOf column.name) := by
  -- Once it is completed, every key that covers the column gives it a reference.
  have whole : ∀ key ∈ metadata.foreignKeys,
      ((registry.complete key).referenceOf column.name).isSome = key.covers column.name := by
    intro key declared
    have explicit := registry.complete_referencedColumns (TableMetadata.kind_of_mem_foreignKeys declared)
    rw [Constraint.isSome_referenceOf]
    simp [Constraint.covers, Constraint.isExplicit, explicit]
  rw [registry.completeTable_foreignKey consistent member, completeTable_foreignKeys,
    List.findSome?_map, findSome?_eq_bind_find? fun key _ => key.isSome_referenceOf column.name,
    ← findSome?_eq_bind_find? whole]
  rfl

theorem followsKeys_of_mem (consistent : metadata.Consistent)
    {column : Column} (member : column ∈ (registry.completeTable metadata).table.columns) :
    column.FollowsKeys metadata.foreignKeys registry.complete where
  unreferenced := by
    rw [registry.foreignKey_eq_none_iff consistent member, completeTable_foreignKeys]
    simp only [List.mem_map, forall_exists_index, and_imp, forall_apply_eq_imp_iff₂, complete_columns]
  written key found := by
    have fits := List.find?_some found
    rw [← Constraint.isSome_referenceOf] at fits
    rw [registry.foreignKey_eq_or consistent member, found, Option.bind_some,
      Option.or_of_isSome fits]
  completed none key found := by
    have unwritten : metadata.foreignKeys.find? (fun key => key.covers column.name && key.isExplicit) =
        Option.none := by
      rw [List.find?_eq_none]
      intro other declared both
      rw [Bool.and_eq_true] at both
      exact absurd both.2 (by simp [none other declared both.1])
    rw [registry.foreignKey_eq_or consistent member, unwritten, found]
    rfl
  first key found := by
    rw [registry.foreignKey_eq_or consistent member, found]
    cases early : metadata.foreignKeys.find? fun key => key.covers column.name && key.isExplicit with
    | none => simp
    | some other =>
        have fits := List.find?_some early
        rw [← Constraint.isSome_referenceOf] at fits
        rw [Option.bind_some, Option.or_of_isSome fits]
        simp

end Registry

namespace Pipeline

theorem infer_tables (config : Config) (rules : Rules) (registry : Registry)
    (diagnostics : List Diagnostic) :
    (infer config rules registry diagnostics).tables = registry.tables.map TableMetadata.table := by
  unfold infer
  split <;> rfl

/-- Every column of a schema follows the foreign keys that the script declares for its table. -/
theorem inferSchema_followsKeys (config : Config) (script : Text) :
    ∀ table ∈ (inferSchema config script).tables, ∀ column ∈ table.columns,
      column.FollowsKeys (declaredKeys Dialect.standard Ddl.classify script table.name)
        (registryIn Dialect.standard Ddl.classify script).complete := by
  intro table member column present
  obtain ⟨diagnostics, ran⟩ := run_eq_infer Dialect.standard_classifies config config.rules script
  rw [inferSchema, ran, infer_tables] at member
  obtain ⟨completed, registered, rfl⟩ := List.mem_map.mp member
  obtain ⟨metadata, written, rfl⟩ := List.mem_map.mp registered
  obtain ⟨consistent, keys⟩ :=
    consistent_of_mem_registryIn Dialect.standard_classifies (Ddl.withClassifiers_isNormal _ _) written
  have follows := Registry.followsKeys_of_mem _ consistent present
  rw [keys] at follows
  rwa [show Table.name _ = metadata.name from Registry.completeTable_name _]

/-- A key that leaves its referenced columns open stands before one that writes them. -/
def openKeyScript : Text :=
  "CREATE TABLE a (x INT REFERENCES b, FOREIGN KEY (x) REFERENCES c (y))".toList

/-- The later key decides, not the first one that is declared. -/
theorem followsKeys_of_openKey :
    let column : Column :=
      { name := "x".toList, dataType := "INT".toList, foreignKey := some ⟨some "c".toList, "y".toList⟩ }
    let keys := declaredKeys Dialect.standard Ddl.classify openKeyScript "a".toList
    let complete := (registryIn Dialect.standard Ddl.classify openKeyScript).complete
    ⟨"a".toList, [column]⟩ ∈ (inferSchema {} openKeyScript).tables ∧ column.FollowsKeys keys complete ∧
      (keys.find? (Constraint.covers "x".toList)).bind (fun key => (complete key).referenceOf "x".toList) =
        some ⟨some "b".toList, "id".toList⟩ := by
  intro column keys complete
  have member : ⟨"a".toList, [column]⟩ ∈ (inferSchema {} openKeyScript).tables := by decide +kernel
  have first : (keys.find? (Constraint.covers "x".toList)).bind
      (fun key => (complete key).referenceOf "x".toList) = some ⟨some "b".toList, "id".toList⟩ := by
    decide +kernel
  exact ⟨member,
    inferSchema_followsKeys {} openKeyScript _ member column (List.mem_singleton.mpr rfl), first⟩

end Pipeline

end Schemata
