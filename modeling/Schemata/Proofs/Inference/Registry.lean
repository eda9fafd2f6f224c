import Schemata.Inference.Registry
import Schemata.Proofs.Ddl.TableBody
import Schemata.Proofs.Inference.Sources

/-!
The tables of a registry one by one. Where no two tables have the same name, to change a table is to
change each table of that name; and the tables stay well-formed under constraints, indexes and the
completion of foreign keys.
-/

namespace Schemata

open Text (InLowerCase)

namespace TableMetadata

/-- A table with one more constraint; a second primary key is dropped. -/
def take (metadata : TableMetadata) (constraint : Constraint) : TableMetadata :=
  if constraint.kind = .primaryKey ∧ metadata.primaryKey?.isSome then metadata
  else { metadata with constraints := metadata.constraints ++ [constraint] }.applyConstraintFlags

def withIndex (metadata : TableMetadata) (index : IndexDefinition) : TableMetadata :=
  { metadata with indexes := metadata.indexes ++ [index] }

variable {metadata : TableMetadata} {constraint : Constraint}

@[simp] theorem take_name : (metadata.take constraint).name = metadata.name := by
  unfold take
  split
  · rfl
  · rw [applyConstraintFlags_name]
    rfl

theorem take_foreignKeys : (metadata.take constraint).foreignKeys =
    metadata.foreignKeys ++ [constraint].filter fun constraint => constraint.kind == .foreignKey := by
  unfold take
  split
  · rename_i second
    rw [List.filter_cons_of_neg (by simp [second.1]), List.filter_nil, List.append_nil]
  · exact List.filter_append ..

theorem WellFormed.take (wellFormed : metadata.WellFormed) (normal : constraint.IsNormal) :
    (metadata.take constraint).WellFormed := by
  unfold TableMetadata.take
  split
  · exact wellFormed
  · refine WellFormed.applyConstraintFlags
      ⟨wellFormed.name, wellFormed.columns, wellFormed.distinct, fun other member => ?_⟩
    rcases List.mem_append.mp member with old | new
    · exact wellFormed.constraints other old
    · rwa [List.mem_singleton.mp new]

theorem ShowsReferences.take (shown : metadata.ShowsReferences) (distinct : metadata.table.Distinct) :
    (metadata.take constraint).ShowsReferences := by
  unfold TableMetadata.take
  split
  · exact shown
  · refine showsReferences_applyConstraintFlags distinct fun column member => ?_
    have longer : TableMetadata.references
        { metadata with constraints := metadata.constraints ++ [constraint] } =
        metadata.references ++ ([constraint].filter fun constraint =>
          constraint.kind == .foreignKey).flatMap Constraint.references := by
      rw [references, foreignKeys, List.filter_append, List.flatMap_append]
      rfl
    rw [longer, Column.firstOf_append, shown column member, ← Option.or_assoc, Option.or_self]

theorem Consistent.take (consistent : metadata.Consistent) (normal : constraint.IsNormal) :
    (metadata.take constraint).Consistent :=
  ⟨consistent.toWellFormed.take normal, consistent.shown.take consistent.distinct⟩

end TableMetadata

namespace Registry

/-- No two tables have the same name, whatever the case. -/
def Distinct (registry : Registry) : Prop :=
  (registry.tables.map fun metadata => Text.lower metadata.name).Nodup

variable {registry : Registry}

theorem update_tables (distinct : registry.Distinct) (name : Text) (change : TableMetadata → TableMetadata) :
    (registry.update name change).tables =
      registry.tables.map fun metadata => if hasName name metadata then change metadata else metadata :=
  updateFirst_eq_map (pairwise_of_nodup_map distinct (Text.lower name))

theorem eq_of_hasName (distinct : registry.Distinct) {name : Text} {one other : TableMetadata}
    (oneIn : one ∈ registry.tables) (otherIn : other ∈ registry.tables)
    (oneNamed : hasName name one = true) (otherNamed : hasName name other = true) : one = other := by
  refine List.inj_on_of_nodup_map distinct oneIn otherIn ?_
  simp only [hasName, beq_iff_eq] at oneNamed otherNamed
  exact oneNamed.trans otherNamed.symm

theorem get?_eq_some (distinct : registry.Distinct) {name : Text} {metadata : TableMetadata} :
    registry.get? name = some metadata ↔ metadata ∈ registry.tables ∧ hasName name metadata = true := by
  constructor
  · intro found
    exact ⟨List.mem_of_find?_eq_some found, List.find?_some found⟩
  · rintro ⟨member, named⟩
    cases found : registry.get? name with
    | none => exact absurd named (List.find?_eq_none.mp found metadata member)
    | some other =>
        rw [eq_of_hasName distinct (List.mem_of_find?_eq_some found) member (List.find?_some found) named]

/-- A name is that of related tables in two registries, or of no table in both. -/
theorem get?_cases {one other : Registry} {related : TableMetadata → TableMetadata → Prop}
    (each : List.Forall₂ related one.tables other.tables)
    (names : ∀ {left right}, related left right → left.name = right.name) (name : Text) :
    one.get? name = none ∧ other.get? name = none ∨
      ∃ left right, one.get? name = some left ∧ other.get? name = some right ∧ related left right := by
  obtain ⟨tables⟩ := one
  obtain ⟨others⟩ := other
  unfold get?
  dsimp only at each ⊢
  induction each with
  | nil => exact .inl ⟨rfl, rfl⟩
  | @cons left right _ _ here _ ih =>
      have named : hasName name left = hasName name right := by rw [hasName, hasName, names here]
      rw [List.find?_cons, List.find?_cons, named]
      cases hasName name right
      · exact ih
      · exact .inr ⟨left, right, rfl, rfl, here⟩

theorem Distinct.map (distinct : registry.Distinct) {change : TableMetadata → TableMetadata}
    (keeps : ∀ metadata, (change metadata).name = metadata.name) :
    Distinct ⟨registry.tables.map change⟩ := by
  simpa only [Distinct, List.map_map, Function.comp_def, keeps] using distinct

theorem map_of_get?_eq_none {name : Text} (unknown : registry.get? name = none)
    (change : TableMetadata → TableMetadata) :
    (registry.tables.map fun metadata => if hasName name metadata then change metadata else metadata) =
      registry.tables :=
  map_eq_self fun metadata member => if_neg (List.find?_eq_none.mp unknown metadata member)

theorem map_of_get?_eq_some (distinct : registry.Distinct) {name : Text} {found : TableMetadata}
    (known : registry.get? name = some found) {change other : TableMetadata → TableMetadata}
    (same : change found = other found) :
    (registry.tables.map fun metadata => if hasName name metadata then change metadata else metadata) =
      registry.tables.map fun metadata => if hasName name metadata then other metadata else metadata := by
  refine List.map_congr_left fun metadata member => ?_
  split
  · rename_i named
    obtain ⟨foundIn, foundNamed⟩ := (get?_eq_some distinct).mp known
    rw [eq_of_hasName distinct member foundIn named foundNamed, same]
  · rfl

/-- To add a constraint is to have each table of the name take it. -/
theorem addConstraint_tables (distinct : registry.Distinct) (name : Text) (constraint : Constraint) :
    ((registry.addConstraint name constraint).toOption.getD registry).tables =
      registry.tables.map fun metadata =>
        if hasName name metadata then metadata.take constraint else metadata := by
  unfold addConstraint
  split
  · rename_i unknown
    exact (map_of_get?_eq_none unknown _).symm
  · rename_i found known
    split
    · rename_i second
      have untouched : found.take constraint = id found := if_pos second
      rw [map_of_get?_eq_some distinct known untouched]
      simp [throw, throwThe, MonadExceptOf.throw, Except.toOption]
    · rename_i first
      refine (update_tables distinct name _).trans (map_of_get?_eq_some distinct known ?_)
      exact (if_neg first).symm

theorem addIndex_tables (distinct : registry.Distinct) (name : Text) (index : IndexDefinition) :
    ((registry.addIndex name index).toOption.getD registry).tables =
      registry.tables.map fun metadata =>
        if hasName name metadata then metadata.withIndex index else metadata := by
  unfold addIndex
  split
  · rename_i unknown
    exact (map_of_get?_eq_none unknown _).symm
  · exact update_tables distinct name _

/-- To complete a constraint is to read the primary keys only. -/
theorem complete_congr {one other : Registry}
    (keys : ∀ name, (one.get? name).map TableMetadata.primaryKeyColumns =
      (other.get? name).map TableMetadata.primaryKeyColumns) : one.complete = other.complete := by
  funext constraint
  rw [complete, complete, implicitColumns, implicitColumns, keys]

section Complete

variable (registry : Registry) {foreignKey : Constraint} {metadata : TableMetadata}

theorem complete_of_explicit (explicit : foreignKey.referencedColumns ≠ []) :
    registry.complete foreignKey = foreignKey := by
  rw [complete, if_neg]
  simp [isImplicit, explicit]

@[simp] theorem complete_kind : (registry.complete foreignKey).kind = foreignKey.kind := by
  unfold complete
  split <;> rfl

@[simp] theorem complete_columns : (registry.complete foreignKey).columns = foreignKey.columns := by
  unfold complete
  split <;> rfl

@[simp] theorem complete_referencedTable :
    (registry.complete foreignKey).referencedTable = foreignKey.referencedTable := by
  unfold complete
  split <;> rfl

theorem complete_referencedColumns (declared : foreignKey.kind = .foreignKey) :
    (registry.complete foreignKey).referencedColumns ≠ [] := by
  unfold complete
  split
  · unfold implicitColumns
    dsimp only
    split
    · rename_i known
      exact known.2
    · simp
  · rename_i explicit
    simpa [isImplicit, declared] using explicit

theorem completeTable_constraints :
    (registry.completeTable metadata).constraints = metadata.constraints.map registry.complete := by
  unfold completeTable
  split
  · rfl
  · rename_i none
    simp only [List.any_eq_true, not_exists, not_and] at none
    exact (map_eq_self fun constraint member => if_neg (none constraint member)).symm

theorem completeTable_foreignKeys :
    (registry.completeTable metadata).foreignKeys = metadata.foreignKeys.map registry.complete := by
  unfold TableMetadata.foreignKeys
  rw [completeTable_constraints, List.filter_map]
  refine congrArg _ (List.filter_congr fun constraint _ => ?_)
  rw [Function.comp_apply, complete_kind]

@[simp] theorem completeTable_name : (registry.completeTable metadata).name = metadata.name := by
  unfold completeTable
  split
  · rw [TableMetadata.applyConstraintFlags_name]
    rfl
  · rfl

theorem complete_isNormal (normal : foreignKey.IsNormal) : (registry.complete foreignKey).IsNormal :=
  ⟨by simpa using normal.columns, by simpa using normal.target⟩

theorem completeTable_wellFormed (wellFormed : metadata.WellFormed) :
    (registry.completeTable metadata).WellFormed := by
  unfold completeTable
  split
  · refine TableMetadata.WellFormed.applyConstraintFlags
      ⟨wellFormed.name, wellFormed.columns, wellFormed.distinct, fun constraint member => ?_⟩
    obtain ⟨old, present, rfl⟩ := List.mem_map.mp member
    exact registry.complete_isNormal (wellFormed.constraints old present)
  · exact wellFormed

/-- The columns of a completed table: what refers to something already stays, and the completed
foreign keys give the other references. -/
theorem completeTable_columns (consistent : metadata.Consistent) :
    ∀ column ∈ (registry.completeTable metadata).table.columns, ∃ old ∈ metadata.table.columns,
      column.name = old.name ∧ column.foreignKey =
        (old.firstOf metadata.references).or (old.firstOf (registry.completeTable metadata).references) := by
  intro column member
  unfold completeTable at member ⊢
  split at member
  · rename_i implicit
    let completed : TableMetadata :=
      { metadata with constraints := metadata.constraints.map registry.complete }
    have columns : completed.applyConstraintFlags.table.columns =
        metadata.table.columns.map completed.flagged := by
      rw [TableMetadata.applyConstraintFlags_table (show completed.table.Distinct from consistent.distinct)]
    rw [columns] at member
    obtain ⟨old, present, rfl⟩ := List.mem_map.mp member
    refine ⟨old, present, rfl, ?_⟩
    rw [if_pos implicit]
    exact congrArg (·.or (old.firstOf completed.references)) (consistent.shown old present)
  · rename_i explicit
    refine ⟨column, member, rfl, ?_⟩
    rw [if_neg explicit, Option.or_self]
    exact consistent.shown column member

end Complete

end Registry

end Schemata
