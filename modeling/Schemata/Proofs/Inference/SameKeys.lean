import Schemata.Proofs.Inference.Engine
import Schemata.Proofs.Inference.Registry

/-!
What the inference asks of keys. Tables of the same columns answer alike where their primary keys have
the same columns, and so have all their keys; which constraint comes first does not count. Cardinalities
and the relationships by column names rest on nothing else.
-/

namespace Schemata

section Forall₂

variable {α β γ : Type} {related : α → β → Prop} {list : List α} {others : List β}

theorem map_eq_of_forall₂ {f : α → γ} {g : β → γ} (each : List.Forall₂ related list others)
    (same : ∀ {a b}, related a b → f a = g b) : list.map f = others.map g := by
  rw [← List.forall₂_eq_eq_eq, List.forall₂_map_left_iff, List.forall₂_map_right_iff]
  exact each.imp fun _ _ => same

theorem filter_of_forall₂ {p : α → Bool} {q : β → Bool} (each : List.Forall₂ related list others)
    (same : ∀ {a b}, related a b → p a = q b) :
    List.Forall₂ related (list.filter p) (others.filter q) :=
  List.rel_filter (fun _ _ here => Bool.eq_iff_iff.mp (same here)) each

end Forall₂

namespace TableMetadata

/-- The columns are the primary key or unique. -/
def HasKey (metadata : TableMetadata) (columns : List Text) : Prop :=
  ∃ constraint ∈ metadata.constraints,
    (constraint.kind = .primaryKey ∨ constraint.kind = .unique) ∧ constraint.columns = columns

structure SameKeys (one other : TableMetadata) : Prop where
  table : one.table = other.table
  primaryKeyColumns : one.primaryKeyColumns = other.primaryKeyColumns
  keys : ∀ columns, one.HasKey columns ↔ other.HasKey columns

theorem SameKeys.name {one other : TableMetadata} (same : one.SameKeys other) : one.name = other.name :=
  congrArg Table.name same.table

end TableMetadata

namespace Registry

open TableMetadata (HasKey)

/-- Tables with the same keys, in the same order. -/
def SameKeys (one other : Registry) : Prop :=
  List.Forall₂ TableMetadata.SameKeys one.tables other.tables

namespace SameKeys

variable {one other : Registry} {left right : TableMetadata}

theorem get?_cases (same : one.SameKeys other) (name : Text) :
    one.get? name = none ∧ other.get? name = none ∨
      ∃ left right, one.get? name = some left ∧ other.get? name = some right ∧ left.SameKeys right :=
  Registry.get?_cases same TableMetadata.SameKeys.name name

theorem isPrimaryKeyColumn (same : one.SameKeys other) (table column : Text) :
    one.isPrimaryKeyColumn table column = other.isPrimaryKeyColumn table column := by
  unfold Registry.isPrimaryKeyColumn
  rcases same.get?_cases table with ⟨none', none''⟩ | ⟨left, right, found, found', here⟩
  · rw [none', none'']
  · rw [found, found']
    simp only [here.primaryKeyColumns]

theorem hasSingleColumnKey (same : one.SameKeys other) (table column : Text) :
    one.hasSingleColumnKey table column = other.hasSingleColumnKey table column := by
  rw [Bool.eq_iff_iff, hasSingleColumnKey_iff, hasSingleColumnKey_iff]
  rcases same.get?_cases table with ⟨none', none''⟩ | ⟨left, right, found, found', here⟩
  · simp [none', none'']
  · have keys := here.keys [Text.lower column]
    simp only [HasKey] at keys
    simp [found, found', keys]

theorem cardinality (same : one.SameKeys other) (source target : ColumnReference) :
    one.cardinality source target = other.cardinality source target := by
  rw [Registry.cardinality, Registry.cardinality, same.isPrimaryKeyColumn, same.hasSingleColumnKey]

theorem complete (same : one.SameKeys other) : one.complete = other.complete := by
  refine complete_congr fun name => ?_
  rcases same.get?_cases name with ⟨none', none''⟩ | ⟨left, right, found, found', here⟩
  · rw [none', none'']
  · rw [found, found', Option.map_some, Option.map_some, here.primaryKeyColumns]

/-! ### Relationships by column names -/

theorem conventionLink (same : one.SameKeys other) (here : left.SameKeys right) (targetColumn : Text)
    (column : Column) (candidate : Text) :
    Schemata.conventionLink one targetColumn left column candidate =
      Schemata.conventionLink other targetColumn right column candidate := by
  simp only [Schemata.conventionLink, here.name, same.cardinality]
  rcases same.get?_cases candidate with ⟨none', none''⟩ | ⟨target, target', found, found', there⟩
  · rw [none', none'']
  · rw [found, found']
    simp only [bind, Option.bind_some, there.name, there.table]

theorem suggestedLinks (same : one.SameKeys other) (here : left.SameKeys right) (config : Config)
    (column : Column) :
    Schemata.suggestedLinks one config (left, column) = Schemata.suggestedLinks other config (right, column) := by
  have links : Schemata.conventionLink one config.targetColumn left column =
      Schemata.conventionLink other config.targetColumn right column :=
    funext (same.conventionLink here config.targetColumn column)
  simp only [Schemata.suggestedLinks, links]

theorem conventions (same : one.SameKeys other) (config : Config) :
    one.conventions config = other.conventions config := by
  have columns : one.columns.flatMap (Schemata.suggestedLinks one config) =
      other.columns.flatMap (Schemata.suggestedLinks other config) := by
    simp only [Registry.columns, List.flatMap_assoc, List.flatMap_map]
    simp only [List.flatMap_def]
    refine congrArg List.flatten (map_eq_of_forall₂ same fun {left right} here => ?_)
    rw [here.table]
    exact congrArg List.flatten (List.map_congr_left fun column _ => same.suggestedLinks here config column)
  unfold Registry.conventions
  rw [columns]

end SameKeys

end Registry

end Schemata
