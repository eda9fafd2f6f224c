import Schemata.Proofs.Inference.Mirror
import Schemata.Proofs.Inference.SameKeys

/-!
Tables that the inference cannot tell apart: their columns and foreign keys are the same, their primary
keys have the same columns, and so have all their keys. The order of the constraints and the names that
they were given do not count, so the same constraint may be declared in a body or added later.
-/

namespace Schemata

namespace TableMetadata

structure Alike (one other : TableMetadata) : Prop where
  table : one.table = other.table
  foreignKeys : one.foreignKeys = other.foreignKeys
  primaryKey : one.primaryKey?.map Constraint.columns = other.primaryKey?.map Constraint.columns
  keys : ∀ columns, one.HasKey columns ↔ other.HasKey columns

namespace Alike

variable {one other : TableMetadata}

theorem refl (metadata : TableMetadata) : metadata.Alike metadata :=
  ⟨rfl, rfl, rfl, fun _ => Iff.rfl⟩

theorem name (alike : one.Alike other) : one.name = other.name :=
  congrArg Table.name alike.table

theorem primaryKeyColumns (alike : one.Alike other) : one.primaryKeyColumns = other.primaryKeyColumns :=
  congrArg (·.getD []) alike.primaryKey

theorem sameKeys (alike : one.Alike other) : one.SameKeys other :=
  ⟨alike.table, alike.primaryKeyColumns, alike.keys⟩

theorem isSome_primaryKey? (alike : one.Alike other) : one.primaryKey?.isSome = other.primaryKey?.isSome := by
  simpa using congrArg Option.isSome alike.primaryKey

theorem applyConstraintFlags (alike : one.Alike other) :
    one.applyConstraintFlags.Alike other.applyConstraintFlags where
  table := by
    unfold TableMetadata.applyConstraintFlags
    rw [alike.table, alike.foreignKeys, alike.primaryKeyColumns]
  foreignKeys := alike.foreignKeys
  primaryKey := alike.primaryKey
  keys := alike.keys

theorem withIndex (alike : one.Alike other) (index : IndexDefinition) :
    (one.withIndex index).Alike (other.withIndex index) :=
  ⟨alike.table, alike.foreignKeys, alike.primaryKey, alike.keys⟩

theorem hasKey_append (metadata : TableMetadata) (constraint : Constraint) (columns : List Text) :
    HasKey { metadata with constraints := metadata.constraints ++ [constraint] } columns ↔
      metadata.HasKey columns ∨
        (constraint.kind = .primaryKey ∨ constraint.kind = .unique) ∧ constraint.columns = columns := by
  simp only [HasKey, List.mem_append, List.mem_singleton, or_and_right, exists_or, exists_eq_left]

theorem append (alike : one.Alike other) (constraint : Constraint) :
    Alike { one with constraints := one.constraints ++ [constraint] }
      { other with constraints := other.constraints ++ [constraint] } where
  table := alike.table
  foreignKeys := by
    simp only [TableMetadata.foreignKeys, List.filter_append]
    exact congrArg (· ++ _) alike.foreignKeys
  primaryKey := by
    have found := alike.primaryKey
    simp only [primaryKey?, List.find?_append] at found ⊢
    simp only [Option.map_or, found]
  keys columns := by rw [hasKey_append, hasKey_append, alike.keys]

theorem take (alike : one.Alike other) (constraint : Constraint) :
    (one.take constraint).Alike (other.take constraint) := by
  unfold TableMetadata.take
  rw [alike.isSome_primaryKey?]
  split
  · exact alike
  · exact (alike.append constraint).applyConstraintFlags

theorem foldl_take (alike : one.Alike other) (constraints : List Constraint) :
    (constraints.foldl TableMetadata.take one).Alike (constraints.foldl TableMetadata.take other) := by
  induction constraints generalizing one other with
  | nil => exact alike
  | cons constraint rest ih => exact ih (alike.take constraint)

end Alike

end TableMetadata

namespace Registry

open TableMetadata (HasKey)

/-- Tables that are alike, in the same order. -/
def Alike (one other : Registry) : Prop :=
  List.Forall₂ TableMetadata.Alike one.tables other.tables

namespace Alike

variable {one other : Registry} {left right : TableMetadata}

theorem sameKeys (alike : one.Alike other) : one.SameKeys other :=
  alike.imp fun _ _ => TableMetadata.Alike.sameKeys

/-! ### Completion -/

theorem any_isImplicit (metadata : TableMetadata) :
    metadata.constraints.any isImplicit = metadata.foreignKeys.any isImplicit := by
  rw [TableMetadata.foreignKeys, List.any_filter]
  refine congrArg (List.any _) (funext fun constraint => ?_)
  simp only [isImplicit]
  cases constraint.kind == .foreignKey <;> rfl

theorem map_complete (registry : Registry) (alike : left.Alike right) :
    TableMetadata.Alike { left with constraints := left.constraints.map registry.complete }
      { right with constraints := right.constraints.map registry.complete } := by
  have foreign : ∀ metadata : TableMetadata,
      TableMetadata.foreignKeys { metadata with constraints := metadata.constraints.map registry.complete } =
        metadata.foreignKeys.map registry.complete := by
    intro metadata
    simp only [TableMetadata.foreignKeys, List.filter_map, Function.comp_def, complete_kind]
  have primary : ∀ metadata : TableMetadata,
      TableMetadata.primaryKey? { metadata with constraints := metadata.constraints.map registry.complete } =
        metadata.primaryKey? := by
    intro metadata
    simp only [TableMetadata.primaryKey?, ← List.head?_filter, filter_primaryKey_map_complete]
  have keyed : ∀ (metadata : TableMetadata) columns,
      HasKey { metadata with constraints := metadata.constraints.map registry.complete } columns ↔
        metadata.HasKey columns := by
    intro metadata columns
    simp only [HasKey, List.mem_map, exists_exists_and_eq_and, complete_kind, complete_columns]
  refine ⟨alike.table, ?_, ?_, fun columns => ?_⟩
  · rw [foreign, foreign, alike.foreignKeys]
  · rw [primary, primary, alike.primaryKey]
  · rw [keyed, keyed, alike.keys]

theorem completeTable (alike : one.Alike other) (here : left.Alike right) :
    (one.completeTable left).Alike (other.completeTable right) := by
  unfold Registry.completeTable
  rw [any_isImplicit, any_isImplicit, here.foreignKeys, alike.sameKeys.complete]
  split
  · exact (map_complete other here).applyConstraintFlags
  · exact here

theorem resolveImplicitReferences (alike : one.Alike other) :
    one.resolveImplicitReferences.Alike other.resolveImplicitReferences := by
  unfold Registry.Alike Registry.resolveImplicitReferences
  rw [List.forall₂_map_left_iff, List.forall₂_map_right_iff]
  exact alike.imp fun _ _ => alike.completeTable

/-! ### Relationships -/

theorem foreignKeyLinks (alike : one.Alike other) (here : left.Alike right) :
    Schemata.foreignKeyLinks one left = Schemata.foreignKeyLinks other right := by
  simp only [Schemata.foreignKeyLinks, here.foreignKeys, here.name, alike.sameKeys.cardinality]

theorem directLinks (alike : one.Alike other) (junctions : List Text) :
    Schemata.directLinks one junctions = Schemata.directLinks other junctions := by
  have outside : List.Forall₂ TableMetadata.Alike
      (one.tables.filter fun metadata => !junctions.contains metadata.name)
      (other.tables.filter fun metadata => !junctions.contains metadata.name) :=
    filter_of_forall₂ alike fun here => by rw [here.name]
  simp only [Schemata.directLinks, List.flatMap_def]
  exact congrArg List.flatten (map_eq_of_forall₂ outside alike.foreignKeyLinks)

theorem junctionLinks (alike : one.Alike other) (junctions : List Text) (mode : ManyToManyMode) :
    Schemata.junctionLinks one junctions mode = Schemata.junctionLinks other junctions mode := by
  unfold Schemata.junctionLinks
  induction junctions with
  | nil => rfl
  | cons name rest ih =>
      rw [List.filterMap_cons, List.filterMap_cons]
      rcases get?_cases alike TableMetadata.Alike.name name with ⟨none', none''⟩ | ⟨left, right, found, found', here⟩
      · rw [none', none'']
        exact ih
      · have links : junctionLinksOf mode left = junctionLinksOf mode right := by
          unfold junctionLinksOf
          rw [here.foreignKeys, here.name]
        rw [found, found', List.flatMap_cons, List.flatMap_cons, ih, links]

/-- What is found over tables that are alike is the same. -/
theorem found (alike : one.Alike other) (junctions : List Text) (config : Config) :
    one.found junctions config = other.found junctions config := by
  rw [Registry.found, Registry.found, alike.directLinks, alike.junctionLinks, alike.sameKeys.conventions]

theorem isJunctionTable (here : left.Alike right) (config : Config) :
    config.isJunctionTable left = config.isJunctionTable right := by
  simp only [Config.isJunctionTable, keysFormPrimaryKey, here.foreignKeys, here.primaryKeyColumns, here.table]

end Alike

end Registry

end Schemata
