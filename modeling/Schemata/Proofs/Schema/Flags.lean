import Schemata.Schema.Table
import Mathlib.Data.List.Nodup

/-!
What constraints show in the flags of columns. Where no two columns of a table have the same name,
the flags of each column are a matter of that column alone: it is marked if the primary key names it,
and it refers to what the first reference to its name leads to, unless it refers to something already.
-/

namespace Schemata

theorem map_eq_self {α : Type} {change : α → α} {list : List α} (same : ∀ a ∈ list, change a = a) :
    list.map change = list := by
  rw [List.map_congr_left same, List.map_id']

/-- Changing the first element that fits is changing each that fits, if there is one at most. -/
theorem updateFirst_eq_map {α : Type} {fits : α → Bool} {change : α → α} {list : List α}
    (once : list.Pairwise fun a b => fits a = true → fits b = false) :
    updateFirst fits change list = list.map fun a => if fits a then change a else a := by
  induction list with
  | nil => rfl
  | cons a rest ih =>
      obtain ⟨others, later⟩ := List.pairwise_cons.mp once
      unfold updateFirst
      split
      · rename_i here
        have untouched : rest.map (fun b => if fits b then change b else b) = rest := by
          refine map_eq_self fun b member => ?_
          rw [others b member here, if_neg Bool.false_ne_true]
        rw [List.map_cons, if_pos here, untouched]
      · rename_i elsewhere
        rw [List.map_cons, if_neg elsewhere, ih later]

/-- Where the keys are distinct, an element that fits a key is the only one. -/
theorem pairwise_of_nodup_map {α κ : Type} [BEq κ] [LawfulBEq κ] {key : α → κ} {list : List α}
    (distinct : (list.map key).Nodup) (wanted : κ) :
    list.Pairwise fun a b => (key a == wanted) = true → (key b == wanted) = false := by
  rw [List.nodup_iff_pairwise_ne, List.pairwise_map] at distinct
  refine distinct.imp fun different fits => ?_
  rw [beq_iff_eq] at fits
  rw [beq_eq_false_iff_ne, ← fits]
  exact different.symm

namespace Table

/-- No two columns have the same name, whatever the case. -/
def Distinct (table : Table) : Prop :=
  (table.columns.map fun column => Text.lower column.name).Nodup

theorem updateColumn_columns {table : Table} (distinct : table.Distinct) (name : Text)
    (change : Column → Column) :
    (table.updateColumn name change).columns =
      table.columns.map fun column => if column.isNamed name then change column else column :=
  updateFirst_eq_map (pairwise_of_nodup_map distinct (Text.lower name))

theorem Distinct.of_map {table other : Table} (distinct : table.Distinct) (change : Column → Column)
    (keeps : ∀ column, (change column).name = column.name)
    (columns : other.columns = table.columns.map change) : other.Distinct := by
  simpa only [Distinct, columns, List.map_map, Function.comp_def, keeps] using distinct

theorem name_foldl_updateColumn {α : Type} (name : α → Text) (change : α → Column → Column)
    (steps : List α) (table : Table) :
    (steps.foldl (fun table step => table.updateColumn (name step) (change step)) table).name =
      table.name := by
  induction steps generalizing table with
  | nil => rfl
  | cons step rest ih => exact ih _

/-- A series of changes to named columns is a series of changes to each column. -/
theorem foldl_updateColumn {α : Type} (name : α → Text) (change : α → Column → Column)
    (keeps : ∀ step column, (change step column).name = column.name) (steps : List α) {table : Table}
    (distinct : table.Distinct) :
    steps.foldl (fun table step => table.updateColumn (name step) (change step)) table =
      { table with columns := table.columns.map fun column =>
          steps.foldl (fun column step =>
            if column.isNamed (name step) then change step column else column) column } := by
  induction steps generalizing table with
  | nil => simp
  | cons step rest ih =>
      have columns := updateColumn_columns distinct (name step) (change step)
      have kept : (table.updateColumn (name step) (change step)).Distinct :=
        distinct.of_map _ (fun column => by split <;> simp [keeps]) columns
      rw [List.foldl_cons, ih kept, columns, List.map_map]
      rfl

end Table

namespace Constraint

/-- The references that a foreign key gives, each with the column that it is for. -/
def references (foreignKey : Constraint) : List (Text × ForeignReference) :=
  foreignKey.columnPairs.map fun pair => (pair.1, ⟨foreignKey.referencedTable, pair.2⟩)

end Constraint

namespace Column

def firstOf (column : Column) (references : List (Text × ForeignReference)) : Option ForeignReference :=
  references.findSome? fun entry => if column.isNamed entry.1 then some entry.2 else none

theorem firstOf_append (column : Column) (first second : List (Text × ForeignReference)) :
    column.firstOf (first ++ second) = (column.firstOf first).or (column.firstOf second) :=
  List.findSome?_append

theorem foldl_markKey (column : Column) (names : List Text) :
    names.foldl (fun column name => if column.isNamed name then column.markKey else column) column =
      { column with primaryKey := column.primaryKey || names.any fun name => column.isNamed name } := by
  induction names generalizing column with
  | nil => simp
  | cons name rest ih =>
      rw [List.foldl_cons, ih, List.any_cons]
      cases named : column.isNamed name
      · simp
      · simp [markKey]

theorem foldl_refer (column : Column) (references : List (Text × ForeignReference)) :
    references.foldl (fun column entry =>
        if column.isNamed entry.1 then column.refer entry.2 else column) column =
      { column with foreignKey := column.foreignKey.or (column.firstOf references) } := by
  induction references generalizing column with
  | nil => simp [firstOf]
  | cons entry rest ih =>
      rw [List.foldl_cons, ih, firstOf, firstOf, List.findSome?_cons]
      cases named : column.isNamed entry.1
      · simp
      · cases held : column.foreignKey <;> simp [refer, held]

end Column

namespace TableMetadata

def references (metadata : TableMetadata) : List (Text × ForeignReference) :=
  metadata.foreignKeys.flatMap Constraint.references

/-- A column with the flags that the constraints ask for. -/
def flagged (metadata : TableMetadata) (column : Column) : Column :=
  { column with
    primaryKey := column.primaryKey || metadata.primaryKeyColumns.any fun name => column.isNamed name
    foreignKey := column.foreignKey.or (column.firstOf metadata.references) }

theorem foldl_applyForeignKey (table : Table) (foreignKeys : List Constraint) :
    foreignKeys.foldl applyForeignKey table =
      (foreignKeys.flatMap Constraint.references).foldl (fun table entry =>
        table.updateColumn entry.1 (Column.refer entry.2)) table := by
  induction foreignKeys generalizing table with
  | nil => rfl
  | cons foreignKey rest ih =>
      rw [List.foldl_cons, ih, List.flatMap_cons, List.foldl_append, Constraint.references,
        List.foldl_map]
      rfl

@[simp] theorem applyConstraintFlags_name (metadata : TableMetadata) :
    metadata.applyConstraintFlags.name = metadata.name := by
  unfold applyConstraintFlags name
  dsimp only
  rw [foldl_applyForeignKey, Table.name_foldl_updateColumn Prod.fst fun entry => Column.refer entry.2]
  exact Table.name_foldl_updateColumn id (fun _ => Column.markKey) metadata.primaryKeyColumns metadata.table

/-- The flags of each column are set on their own. -/
theorem applyConstraintFlags_table {metadata : TableMetadata} (distinct : metadata.table.Distinct) :
    metadata.applyConstraintFlags.table =
      { metadata.table with columns := metadata.table.columns.map metadata.flagged } := by
  let marks (column : Column) : Column :=
    { column with
      primaryKey := column.primaryKey ||
        metadata.primaryKeyColumns.any fun name => column.isNamed name }
  have marked := Table.foldl_updateColumn id (fun _ => Column.markKey)
    (fun _ _ => rfl) metadata.primaryKeyColumns distinct
  simp only [id_eq, Column.foldl_markKey] at marked
  have kept : Table.Distinct { metadata.table with columns := metadata.table.columns.map marks } :=
    distinct.of_map marks (fun _ => rfl) rfl
  have referred := Table.foldl_updateColumn Prod.fst
    (fun (entry : Text × ForeignReference) => Column.refer entry.2)
    (fun _ _ => rfl) metadata.references kept
  simp only [Column.foldl_refer, List.map_map] at referred
  unfold applyConstraintFlags
  dsimp only
  rw [marked, foldl_applyForeignKey]
  exact referred

theorem applyConstraintFlags_distinct {metadata : TableMetadata} (distinct : metadata.table.Distinct) :
    metadata.applyConstraintFlags.table.Distinct :=
  distinct.of_map metadata.flagged (fun _ => rfl) (by rw [applyConstraintFlags_table distinct])

end TableMetadata

end Schemata
