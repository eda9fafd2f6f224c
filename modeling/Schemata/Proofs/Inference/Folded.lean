import Schemata.Proofs.Ddl.FoldedTables
import Schemata.Proofs.Inference.Engine

/-!
The types of columns are compared without regard to case, and the expressions of checks are not read at
all. So a registry whose types are folded takes the same changes and leads to the same relationships.
-/

namespace Schemata

open Text

theorem normalizeType_folded (dataType : Text) : normalizeType (Text.folded dataType) = normalizeType dataType := by
  rw [normalizeType, Ddl.parenthesized_folds.replaced rfl, trim_folded, lower_folded, normalizeType]

theorem areTypesCompatible_folded (one other : Text) :
    areTypesCompatible (Text.folded one) (Text.folded other) = areTypesCompatible one other := by
  simp only [areTypesCompatible, normalizeType_folded]

namespace Registry

def folded (registry : Registry) : Registry :=
  ⟨registry.tables.map TableMetadata.folded⟩

variable (registry : Registry)

theorem get?_folded (name : Text) : registry.folded.get? name = (registry.get? name).map TableMetadata.folded :=
  List.find?_map ..

theorem contains_folded (name : Text) : registry.folded.contains name = registry.contains name :=
  List.any_map ..

theorem register_folded (metadata : TableMetadata) :
    registry.folded.register metadata.folded =
      ((registry.register metadata).1.folded, (registry.register metadata).2) := by
  rw [register, register, contains_folded, TableMetadata.folded_name]
  cases registry.contains metadata.name with
  | true => rfl
  | false => simp [folded]

theorem update_folded (name : Text) {change change' : TableMetadata → TableMetadata}
    (commutes : ∀ metadata : TableMetadata, change' metadata.folded = (change metadata).folded) :
    registry.folded.update name change' = (registry.update name change).folded := by
  have fits : ∀ metadata : TableMetadata, hasName name metadata.folded = hasName name metadata := fun _ => rfl
  exact congrArg Registry.mk (updateFirst_map fits commutes registry.tables)

/-- A folded registry takes a constraint exactly if the registry does. -/
theorem addConstraint_folded (name : Text) (constraint : Constraint) :
    registry.folded.addConstraint name constraint.folded =
      (registry.addConstraint name constraint).map folded := by
  rw [addConstraint, addConstraint, get?_folded]
  cases registry.get? name with
  | none => rfl
  | some metadata =>
      have keyed : metadata.folded.primaryKey?.isSome = metadata.primaryKey?.isSome := by
        rw [TableMetadata.primaryKey?_folded, Option.isSome_map]
      have added : ∀ metadata : TableMetadata,
          { metadata.folded with
            constraints := metadata.folded.constraints ++ [constraint.folded] : TableMetadata }.applyConstraintFlags =
          ({ metadata with constraints := metadata.constraints ++ [constraint] : TableMetadata
            }.applyConstraintFlags).folded := by
        intro metadata
        rw [← TableMetadata.applyConstraintFlags_folded]
        simp [TableMetadata.folded]
      simp only [Option.map_some, keyed, show constraint.folded.kind = constraint.kind from rfl]
      split
      · rfl
      · exact congrArg pure (registry.update_folded name added)

theorem addIndex_folded (name : Text) (index : IndexDefinition) :
    registry.folded.addIndex name index = (registry.addIndex name index).map folded := by
  rw [addIndex, addIndex, get?_folded]
  cases registry.get? name with
  | none => rfl
  | some metadata =>
      have added : ∀ metadata : TableMetadata,
          { metadata.folded with indexes := metadata.folded.indexes ++ [index] : TableMetadata } =
            ({ metadata with indexes := metadata.indexes ++ [index] : TableMetadata }).folded :=
        fun _ => rfl
      exact congrArg pure (registry.update_folded name added)

theorem complete_folded (constraint : Constraint) :
    registry.folded.complete constraint.folded = (registry.complete constraint).folded := by
  have key : ((registry.folded.get? (constraint.folded.referencedTable.getD [])).map
      TableMetadata.primaryKeyColumns) =
      (registry.get? (constraint.referencedTable.getD [])).map TableMetadata.primaryKeyColumns := by
    rw [get?_folded, Option.map_map]
    exact congrArg (Option.map · _) (funext TableMetadata.primaryKeyColumns_folded)
  have columns : registry.folded.implicitColumns constraint.folded = registry.implicitColumns constraint := by
    rw [implicitColumns, implicitColumns, key]
    rfl
  rw [complete, complete, columns, show isImplicit constraint.folded = isImplicit constraint from rfl]
  split <;> rfl

theorem completeTable_folded (metadata : TableMetadata) :
    registry.folded.completeTable metadata.folded = (registry.completeTable metadata).folded := by
  have open' : metadata.folded.constraints.any isImplicit = metadata.constraints.any isImplicit := List.any_map ..
  rw [completeTable, completeTable, open']
  split
  · rw [← TableMetadata.applyConstraintFlags_folded]
    have constraints : metadata.folded.constraints.map registry.folded.complete =
        (metadata.constraints.map registry.complete).map Constraint.folded := by
      rw [TableMetadata.folded, List.map_map, List.map_map]
      exact List.map_congr_left fun constraint _ => registry.complete_folded constraint
    rw [constraints]
    rfl
  · rfl

theorem resolveImplicitReferences_folded :
    registry.folded.resolveImplicitReferences = registry.resolveImplicitReferences.folded := by
  refine congrArg Registry.mk ?_
  rw [folded, resolveImplicitReferences, List.map_map, List.map_map]
  exact List.map_congr_left fun metadata _ => registry.completeTable_folded metadata

/-! ### Relationships -/

theorem isPrimaryKeyColumn_folded (table column : Text) :
    registry.folded.isPrimaryKeyColumn table column = registry.isPrimaryKeyColumn table column := by
  rw [isPrimaryKeyColumn, isPrimaryKeyColumn, get?_folded]
  cases registry.get? table with
  | none => rfl
  | some metadata => simp only [Option.map_some, TableMetadata.primaryKeyColumns_folded]

theorem hasSingleColumnKey_folded (table column : Text) :
    registry.folded.hasSingleColumnKey table column = registry.hasSingleColumnKey table column := by
  rw [hasSingleColumnKey, hasSingleColumnKey, get?_folded]
  cases registry.get? table with
  | none => rfl
  | some metadata => exact List.any_map ..

theorem cardinality_folded (source target : ColumnReference) :
    registry.folded.cardinality source target = registry.cardinality source target := by
  rw [cardinality, cardinality, isPrimaryKeyColumn_folded, hasSingleColumnKey_folded]

theorem foreignKeyLinks_folded (metadata : TableMetadata) :
    foreignKeyLinks registry.folded metadata.folded = foreignKeyLinks registry metadata := by
  rw [foreignKeyLinks, foreignKeyLinks, TableMetadata.foreignKeys_folded, List.flatMap_map]
  simp only [cardinality_folded]
  rfl

theorem directLinks_folded (junctions : List Text) :
    directLinks registry.folded junctions = directLinks registry junctions := by
  rw [directLinks, directLinks, folded, List.filter_map, List.flatMap_map]
  exact congrArg (List.flatMap · _) (funext registry.foreignKeyLinks_folded)

theorem junctionLinks_folded (junctions : List Text) (mode : ManyToManyMode) :
    junctionLinks registry.folded junctions mode = junctionLinks registry junctions mode := by
  have joined : ∀ metadata : TableMetadata, junctionLinksOf mode metadata.folded = junctionLinksOf mode metadata := by
    intro metadata
    rw [junctionLinksOf, junctionLinksOf, TableMetadata.foreignKeys_folded]
    rcases metadata.foreignKeys with _ | ⟨_, _ | ⟨_, _ | ⟨_, _⟩⟩⟩ <;> rfl
  have listed : junctions.filterMap registry.folded.get? =
      (junctions.filterMap registry.get?).map TableMetadata.folded := by
    rw [List.map_filterMap]
    exact congrArg (List.filterMap · junctions) (funext registry.get?_folded)
  rw [junctionLinks, junctionLinks, listed, List.flatMap_map]
  exact congrArg (List.flatMap · _) (funext joined)

theorem column?_folded (table : Table) (name : Text) :
    table.folded.column? name = (table.column? name).map Column.folded :=
  List.find?_map ..

theorem conventionLink_folded (targetColumn : Text) (metadata : TableMetadata) (column : Column) (candidate : Text) :
    conventionLink registry.folded targetColumn metadata.folded column.folded candidate =
      conventionLink registry targetColumn metadata column candidate := by
  unfold conventionLink
  simp only [get?_folded, TableMetadata.folded_name, Option.bind_eq_bind, Option.bind_map]
  refine congrArg (Option.bind _) (funext fun _ => congrArg (Option.bind _) (funext fun found => ?_))
  simp only [Function.comp_apply, TableMetadata.folded, column?_folded, Option.bind_map]
  refine congrArg (Option.bind _) (funext fun key => ?_)
  simp only [Column.folded, areTypesCompatible_folded, cardinality_folded]
  rfl

theorem conventions_folded (config : Config) : registry.folded.conventions config = registry.conventions config := by
  have columns : registry.folded.columns =
      registry.columns.map fun place => (place.1.folded, place.2.folded) := by
    simp only [Registry.columns, folded, List.flatMap_map, List.map_flatMap, List.map_map]
    refine congrArg (List.flatMap · _) (funext fun metadata => ?_)
    rw [TableMetadata.folded, Table.folded, List.map_map]
    rfl
  have suggested : ∀ place : TableMetadata × Column,
      suggestedLinks registry.folded config (place.1.folded, place.2.folded) =
        suggestedLinks registry config place := by
    intro place
    have links : conventionLink registry.folded config.targetColumn place.1.folded place.2.folded =
        conventionLink registry config.targetColumn place.1 place.2 :=
      funext (registry.conventionLink_folded config.targetColumn place.1 place.2)
    simp only [suggestedLinks, links]
    rfl
  rw [conventions, conventions, columns, List.flatMap_map]
  exact congrArg (if config.conventions then List.flatMap · _ else []) (funext suggested)

theorem found_folded (junctions : List Text) (config : Config) :
    registry.folded.found junctions config = registry.found junctions config := by
  rw [found, found, directLinks_folded, junctionLinks_folded, conventions_folded]

theorem isJunctionTable_folded (config : Config) (metadata : TableMetadata) :
    config.isJunctionTable metadata.folded = config.isJunctionTable metadata := by
  have linked : metadata.folded.foreignKeys.flatMap Constraint.columns =
      metadata.foreignKeys.flatMap Constraint.columns := by
    rw [TableMetadata.foreignKeys_folded, List.flatMap_map]
    rfl
  have keys : metadata.folded.foreignKeys.length = metadata.foreignKeys.length := by
    rw [TableMetadata.foreignKeys_folded, List.length_map]
  have formed : keysFormPrimaryKey metadata.folded = keysFormPrimaryKey metadata := by
    rw [keysFormPrimaryKey, keysFormPrimaryKey, linked, TableMetadata.primaryKeyColumns_folded]
  have extra : ∀ linked : List Text, ((metadata.folded.table.columns.filter fun column =>
        !linked.contains column.name).filter fun column => !config.isAuditColumn column.name).length =
      ((metadata.table.columns.filter fun column =>
        !linked.contains column.name).filter fun column => !config.isAuditColumn column.name).length := by
    intro linked
    rw [TableMetadata.folded, Table.folded, List.filter_map, List.filter_map, List.length_map]
    rfl
  simp only [Config.isJunctionTable, linked, keys, formed, extra]

end Registry

end Schemata
