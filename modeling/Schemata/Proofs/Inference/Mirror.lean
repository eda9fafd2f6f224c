import Schemata.Proofs.Inference.References
import Mathlib.Data.List.Forall2

/-!
The flags of a table against its constraints. A column is marked exactly if the one primary key names
it, and every column that a foreign key with referenced columns covers refers to something. The
parser makes such tables, and constraints, indexes and the completion of foreign keys keep them so;
what a flag says once, it says from then on.
-/

namespace Schemata

open Ddl (Dialect Draft Entry Reading)

theorem forall₂_trans {α : Type} {related : α → α → Prop}
    (joins : ∀ a b c, related a b → related b c → related a c) {first second third : List α}
    (early : List.Forall₂ related first second) (late : List.Forall₂ related second third) :
    List.Forall₂ related first third := by
  induction early generalizing third with
  | nil => exact late
  | cons here _ ih =>
      cases late with
      | cons next rest => exact .cons (joins _ _ _ here next) (ih rest)

/-- A column at a later time: what it refers to stays, and so does its mark. -/
structure Column.Grows (old new : Column) : Prop where
  name : new.name = old.name
  dataType : new.dataType = old.dataType
  nullable : new.nullable = old.nullable
  primaryKey : old.primaryKey = true → new.primaryKey = true
  foreignKey : ∀ reference, old.foreignKey = some reference → new.foreignKey = some reference

namespace Column.Grows

variable {first second third : Column}

theorem refl (column : Column) : column.Grows column :=
  ⟨rfl, rfl, rfl, id, fun _ refers => refers⟩

theorem trans (early : first.Grows second) (late : second.Grows third) : first.Grows third where
  name := late.name.trans early.name
  dataType := late.dataType.trans early.dataType
  nullable := late.nullable.trans early.nullable
  primaryKey marked := late.primaryKey (early.primaryKey marked)
  foreignKey reference refers := late.foreignKey reference (early.foreignKey reference refers)

end Column.Grows

namespace TableMetadata

/-- A table at a later time: its name and its columns stay, and each column grows. -/
structure Grows (old new : TableMetadata) : Prop where
  name : new.name = old.name
  columns : List.Forall₂ Column.Grows old.table.columns new.table.columns

namespace Grows

variable {first second third : TableMetadata}

theorem refl (metadata : TableMetadata) : metadata.Grows metadata :=
  ⟨rfl, List.forall₂_same.mpr fun column _ => Column.Grows.refl column⟩

theorem trans (early : first.Grows second) (late : second.Grows third) : first.Grows third where
  name := late.name.trans early.name
  columns := forall₂_trans (fun _ _ _ before after => before.trans after) early.columns late.columns

end Grows

/-- The columns have names of their own, and exactly those that the one primary key names are marked. -/
structure MirrorsKey (metadata : TableMetadata) : Prop where
  distinct : metadata.table.Distinct
  oneKey : (metadata.constraints.filter fun constraint => constraint.kind == .primaryKey).length ≤ 1
  marked : ∀ column ∈ metadata.table.columns,
    (column.primaryKey = true ↔ ∃ name ∈ metadata.primaryKeyColumns, column.isNamed name = true)

/-- Each column that the key covers refers to something, if the key has referenced columns. -/
def Refers (metadata : TableMetadata) (key : Constraint) : Prop :=
  key.referencedColumns ≠ [] → ∀ name ∈ key.columns,
    ∀ column ∈ metadata.table.columns, column.isNamed name = true → column.foreignKey ≠ none

/-- The flags of a table mirror its constraints. -/
structure MirrorsConstraints (metadata : TableMetadata) : Prop extends metadata.MirrorsKey where
  referred : ∀ key ∈ metadata.foreignKeys, metadata.Refers key

variable {metadata : TableMetadata} {constraint : Constraint}

theorem flagged_grows (column : Column) : column.Grows (metadata.flagged column) where
  name := rfl
  dataType := rfl
  nullable := rfl
  primaryKey marked := by simp [flagged, marked]
  foreignKey reference refers := by simp [flagged, refers]

theorem applyConstraintFlags_grows (distinct : metadata.table.Distinct) :
    metadata.Grows metadata.applyConstraintFlags where
  name := applyConstraintFlags_name metadata
  columns := by
    rw [applyConstraintFlags_table distinct, List.forall₂_map_right_iff]
    exact List.forall₂_same.mpr fun column _ => flagged_grows column

/-- A foreign key with referenced columns has a reference for each column that it covers. -/
theorem firstOf_references_ne_none {key : Constraint} (declared : key ∈ metadata.foreignKeys)
    (explicit : key.referencedColumns ≠ []) {name : Text} (covered : name ∈ key.columns)
    {column : Column} (named : column.isNamed name = true) :
    column.firstOf metadata.references ≠ none := by
  obtain ⟨referenced, pairs⟩ := Constraint.exists_pairs explicit covered
  have given : (name, (⟨key.referencedTable, referenced⟩ : ForeignReference)) ∈ metadata.references :=
    List.mem_flatMap.mpr ⟨key, declared, List.mem_map.mpr
      ⟨(name, referenced), Constraint.mem_columnPairs.mpr pairs, rfl⟩⟩
  intro none
  have missed := List.findSome?_eq_none_iff.mp none _ given
  simp [named] at missed

/-- Setting the flags makes them mirror the constraints, if the marks that are there already are
those of the primary key. -/
theorem mirrorsConstraints_applyConstraintFlags (distinct : metadata.table.Distinct)
    (oneKey : (metadata.constraints.filter fun constraint => constraint.kind == .primaryKey).length ≤ 1)
    (marked : ∀ column ∈ metadata.table.columns, column.primaryKey = true →
      ∃ name ∈ metadata.primaryKeyColumns, column.isNamed name = true) :
    metadata.applyConstraintFlags.MirrorsConstraints where
  distinct := applyConstraintFlags_distinct distinct
  oneKey := oneKey
  marked column member := by
    rw [applyConstraintFlags_table distinct] at member
    obtain ⟨old, present, rfl⟩ := List.mem_map.mp member
    have key : metadata.applyConstraintFlags.primaryKeyColumns = metadata.primaryKeyColumns := rfl
    simp only [flagged, Bool.or_eq_true, List.any_eq_true, key]
    exact ⟨fun either => either.elim (marked old present) id, Or.inr⟩
  referred key declared explicit name covered column member named := by
    rw [applyConstraintFlags_table distinct] at member
    obtain ⟨old, present, rfl⟩ := List.mem_map.mp member
    have same : key ∈ metadata.foreignKeys := declared
    have given := firstOf_references_ne_none same explicit covered named
    rw [flagged]
    exact fun none => given (Option.or_eq_none_iff.mp none).2

theorem primaryKeyColumns_append_of_ne (other : constraint.kind ≠ .primaryKey) :
    primaryKeyColumns { metadata with constraints := metadata.constraints ++ [constraint] } =
      metadata.primaryKeyColumns := by
  simp [primaryKeyColumns, primaryKey?, List.find?_append, other]

theorem primaryKey?_eq_none :
    metadata.primaryKey? = none ↔
      (metadata.constraints.filter fun constraint => constraint.kind == .primaryKey) = [] := by
  rw [primaryKey?, List.find?_eq_none, List.filter_eq_nil_iff]

/-- A constraint that a table may have makes it mirror all of its constraints. -/
theorem MirrorsKey.withConstraint (mirrors : metadata.MirrorsKey)
    (allowed : ¬ (constraint.kind = .primaryKey ∧ metadata.primaryKey?.isSome = true)) :
    (applyConstraintFlags
      { metadata with constraints := metadata.constraints ++ [constraint] }).MirrorsConstraints := by
  refine mirrorsConstraints_applyConstraintFlags mirrors.distinct ?_ fun column member flag => ?_
  · rw [List.filter_append, List.length_append]
    by_cases key : constraint.kind = .primaryKey
    · have free : metadata.primaryKey? = none := by simpa [key] using allowed
      simp [primaryKey?_eq_none.mp free, key]
    · simpa [key] using mirrors.oneKey
  · obtain ⟨name, listed, named⟩ := (mirrors.marked column member).mp flag
    refine ⟨name, ?_, named⟩
    -- A table with a marked column has its primary key already.
    have other : constraint.kind ≠ .primaryKey := by
      intro key
      have free : metadata.primaryKey? = none := by simpa [key] using allowed
      simp [primaryKeyColumns, free] at listed
    rwa [primaryKeyColumns_append_of_ne other]

theorem withConstraint_grows (distinct : metadata.table.Distinct) (constraint : Constraint) :
    metadata.Grows
      (applyConstraintFlags { metadata with constraints := metadata.constraints ++ [constraint] }) := by
  have longer : Grows metadata { metadata with constraints := metadata.constraints ++ [constraint] } :=
    ⟨rfl, (Grows.refl metadata).columns⟩
  exact longer.trans (applyConstraintFlags_grows distinct)

end TableMetadata

namespace Registry

variable (registry : Registry) {metadata : TableMetadata}

theorem complete_of_kind_ne {constraint : Constraint} (other : constraint.kind ≠ .foreignKey) :
    registry.complete constraint = constraint := by
  rw [complete, if_neg]
  simp [isImplicit, other]

theorem filter_primaryKey_map_complete (constraints : List Constraint) :
    ((constraints.map registry.complete).filter fun constraint => constraint.kind == .primaryKey) =
      constraints.filter fun constraint => constraint.kind == .primaryKey := by
  rw [List.filter_map]
  have kinds : (fun constraint : Constraint => constraint.kind == .primaryKey) ∘ registry.complete =
      fun constraint : Constraint => constraint.kind == .primaryKey := by
    funext constraint
    simp
  rw [kinds]
  refine map_eq_self fun constraint member => registry.complete_of_kind_ne ?_
  have key := (List.mem_filter.mp member).2
  rw [beq_iff_eq] at key
  simp [key]

theorem primaryKeyColumns_map_complete :
    TableMetadata.primaryKeyColumns
        { metadata with constraints := metadata.constraints.map registry.complete } =
      metadata.primaryKeyColumns := by
  simp only [TableMetadata.primaryKeyColumns, TableMetadata.primaryKey?, ← List.head?_filter,
    filter_primaryKey_map_complete]

theorem mirrorsKey_map_complete (mirrors : metadata.MirrorsKey) :
    TableMetadata.MirrorsKey { metadata with constraints := metadata.constraints.map registry.complete } where
  distinct := mirrors.distinct
  oneKey := by
    rw [filter_primaryKey_map_complete]
    exact mirrors.oneKey
  marked := by
    rw [primaryKeyColumns_map_complete]
    exact mirrors.marked

end Registry

namespace Ddl

namespace Draft

/-- The columns that are marked so far are those of the inline primary key. -/
def MarksInlineKey (draft : Draft) : Prop :=
  ∀ column ∈ draft.columns, column.primaryKey = true → column.name ∈ draft.inlineKey

theorem MarksInlineKey.add {draft : Draft} (marks : draft.MarksInlineKey) (entry : Entry) :
    (draft.add entry).MarksInlineKey := by
  cases entry with
  | column read =>
      change (draft.addColumn read).MarksInlineKey
      unfold addColumn
      split
      · exact marks
      · intro column member flag
        rcases List.mem_append.mp member with old | new
        · exact List.mem_append_left _ (marks column old flag)
        · obtain rfl := List.mem_singleton.mp new
          refine List.mem_append_right _ ?_
          rw [if_pos flag]
          exact List.mem_singleton_self _
  | constraint read => exact marks
  | index read => exact marks
  | rejected defect => exact marks

theorem ofEntries_marksInlineKey (entries : List Entry) : (ofEntries entries).MarksInlineKey := by
  suffices general : ∀ draft : Draft, draft.MarksInlineKey → (entries.foldl add draft).MarksInlineKey from
    general {} (by simp [MarksInlineKey])
  induction entries with
  | nil => exact fun _ marks => marks
  | cons entry rest ih => exact fun draft marks => ih _ (marks.add entry)

variable {draft : Draft}

theorem filter_primaryKey_otherConstraints :
    (draft.otherConstraints.filter fun constraint => constraint.kind == .primaryKey) = [] := by
  rw [List.filter_eq_nil_iff]
  intro constraint member
  simpa using (List.mem_filter.mp member).2

theorem filter_primaryKey_mergedConstraints :
    (draft.mergedConstraints.filter fun constraint => constraint.kind == .primaryKey).length ≤ 1 := by
  unfold mergedConstraints
  split
  · simp [filter_primaryKey_otherConstraints]
  · rw [List.filter_cons_of_pos (by rfl), filter_primaryKey_otherConstraints]
    exact Nat.le_refl 1

/-- The primary key of a table takes up the inline one. -/
theorem mem_primaryKeyColumns_of_mem_inlineKey {name : Text} (inline : name ∈ draft.inlineKey)
    (table : Table) :
    name ∈ TableMetadata.primaryKeyColumns ⟨table, draft.mergedConstraints, draft.indexes⟩ := by
  have filled : ¬ (draft.inlineKey.isEmpty && draft.declaredKeys.isEmpty) = true := by
    cases key : draft.inlineKey with
    | nil => simp [key] at inline
    | cons first rest => simp
  have head : TableMetadata.primaryKey? ⟨table, draft.mergedConstraints, draft.indexes⟩ =
      some draft.mergedKey := by
    rw [TableMetadata.primaryKey?, mergedConstraints, if_neg filled]
    rfl
  rw [TableMetadata.primaryKeyColumns, head]
  exact mem_distinct.mpr (List.mem_append_left _ inline)

theorem metadata_mirrorsConstraints (wellFormed : draft.WellFormed) (marks : draft.MarksInlineKey)
    {table : Text} (lower : Text.InLowerCase table) : (draft.metadata table).MirrorsConstraints :=
  TableMetadata.mirrorsConstraints_applyConstraintFlags (wellFormed.unflagged lower).distinct
    filter_primaryKey_mergedConstraints fun column member flag =>
      ⟨column.name, mem_primaryKeyColumns_of_mem_inlineKey (marks column member flag) _,
        beq_self_eq_true _⟩

end Draft

/-- The table is what a statement gives. -/
def Dialect.Gives (dialect : Dialect) (metadata : TableMetadata) : Prop :=
  ∃ statement index reading, dialect.read statement index = .ok reading ∧
    reading.metadata = some metadata

variable {dialect : Dialect} {metadata : TableMetadata}

theorem Dialect.Gives.mirrorsConstraints (normal : dialect.IsNormal) (given : dialect.Gives metadata) :
    metadata.MirrorsConstraints := by
  obtain ⟨statement, index, reading, read, found⟩ := given
  obtain ⟨kind, _, made⟩ := bind_eq_ok.mp read
  cases made
  obtain ⟨table, body, created, rfl⟩ := Reading.exists_draft_of_ofKind found
  exact Draft.metadata_mirrorsConstraints
    (Draft.ofEntries_wellFormed (entriesOf_isNormal normal body))
    (Draft.ofEntries_marksInlineKey _) (normal.table created)

end Ddl

end Schemata
