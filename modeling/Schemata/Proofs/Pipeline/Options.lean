import Schemata.Proofs.Pipeline.Agreement
import Schemata.Proofs.Pipeline.Notes

/-!
What an option of the relationships changes in a schema, and what it leaves. The tables, the junction
tables and the diagnostics never change. Without the pass over column names its relationships are
missing and no others; further name variants only add relationships; and junctions in both directions
keep those in one.
-/

namespace Schemata

namespace Config

theorem prefix_candidatesOf_append (variants more : List NameVariant) (stem : Text) :
    candidatesOf variants stem <+: candidatesOf (variants ++ more) stem := by
  rw [candidatesOf, candidatesOf, List.foldl_append]
  generalize variants.foldl _ [] = found
  induction more generalizing found with
  | nil => exact List.prefix_refl found
  | cons variant rest ih =>
      rw [List.foldl_cons]
      refine List.IsPrefix.trans ?_ (ih _)
      dsimp only
      split
      · exact List.prefix_refl found
      · exact List.prefix_append found _

end Config

namespace Registry

variable {registry : Registry} {junctions : List Text} {config : Config}

/-- Without the pass over column names, its relationships are missing and no others. -/
theorem found_without_conventions (registry : Registry) (junctions : List Text) (config : Config) :
    registry.found junctions { config with conventions := false } =
      (registry.found junctions { config with conventions := true }).filter
        (·.origin != .convention) := by
  have direct : ∀ link ∈ firstOfEach Relationship.key [] (directLinks registry junctions),
      (link.origin != .convention) = true := by
    intro link member
    rw [origin_of_direct member]
    rfl
  have junction : ∀ link ∈ firstOfEach Relationship.key
      ((directLinks registry junctions).map Relationship.key)
      (junctionLinks registry junctions config.manyToMany), (link.origin != .convention) = true := by
    intro link member
    rw [origin_of_junction member]
    rfl
  have convention : ∀ (seen : List LinkKey) (asked : Config),
      (firstOfEach Relationship.key seen (registry.conventions asked)).filter
        (·.origin != .convention) = [] := by
    intro seen asked
    rw [List.filter_eq_nil_iff]
    intro link member
    simp [origin_of_mem_conventions (mem_of_mem_firstOfEach member)]
  have none : registry.conventions { config with conventions := false } = [] := rfl
  rw [found_eq, found_eq, none, List.filter_append, List.filter_append, convention,
    List.filter_eq_self.mpr direct, List.filter_eq_self.mpr junction]
  rfl

/-- No two places of a registry with distinct names are the same reference. -/
theorem IsComplete.nodup_columns (complete : registry.IsComplete) :
    (registry.columns.map fun place =>
      (⟨place.1.name, place.2.name⟩ : ColumnReference)).Nodup := by
  rw [columns, List.map_flatMap, List.nodup_flatMap]
  constructor
  · intro metadata member
    have names : (metadata.table.columns.map fun column => Text.lower column.name).Nodup :=
      (complete.wellFormed metadata member).distinct
    rw [List.map_map]
    refine List.Nodup.of_map (fun reference : ColumnReference => Text.lower reference.column) ?_
    rwa [List.map_map]
  · refine List.Pairwise.imp_of_mem ?_ (List.pairwise_map.mp complete.distinct)
    intro one other _ _ apart reference oneIn otherIn
    simp only [List.map_map, List.mem_map, Function.comp_apply] at oneIn otherIn
    obtain ⟨_, _, rfl⟩ := oneIn
    obtain ⟨_, _, same⟩ := otherIn
    exact apart (congrArg (fun reference => Text.lower reference.table) same.symm)

theorem source_of_mem_suggestedLinks {place : TableMetadata × Column} {link : Relationship}
    (member : link ∈ suggestedLinks registry config place) :
    link.source = ⟨place.1.name, place.2.name⟩ := by
  unfold suggestedLinks at member
  split at member
  · simp at member
  · split at member
    · simp at member
    · obtain ⟨_, _, made⟩ := List.mem_filterMap.mp member
      obtain ⟨_, _, _, _, _, _, rfl⟩ := conventionLink_eq_some.mp made
      rfl

theorem prefix_suggestedLinks (registry : Registry) (config : Config) (more : List NameVariant)
    (place : TableMetadata × Column) :
    suggestedLinks registry config place <+: suggestedLinks registry
      { config with extraNameVariants := config.extraNameVariants ++ more } place := by
  unfold suggestedLinks
  split
  · exact List.prefix_refl _
  · split
    · exact List.prefix_refl _
    · rename_i stem _
      have longer := Config.prefix_candidatesOf_append
        (config.nameVariants ++ config.extraNameVariants) more (Text.lower stem)
      rw [List.append_assoc] at longer
      exact longer.filterMap _

/-- Further name variants only add relationships. One that is added starts at the column of the
variant that gave it, so it takes the key of none that another column has. -/
theorem found_sublist_of_more_variants (complete : registry.IsComplete) (junctions : List Text)
    (config : Config) (more : List NameVariant) :
    (registry.found junctions config).Sublist (registry.found junctions
      { config with extraNameVariants := config.extraNameVariants ++ more }) := by
  rw [found_eq, found_eq]
  refine (List.Sublist.refl _).append ((List.Sublist.refl _).append ?_)
  unfold conventions
  split
  · refine firstOfEach_flatMap_sublist (prefix_suggestedLinks registry config more) ?_
    refine (List.pairwise_map.mp complete.nodup_columns).imp ?_
    intro one other apart link linkIn rival rivalIn same
    refine apart ?_
    rw [← source_of_mem_suggestedLinks linkIn, ← source_of_mem_suggestedLinks rivalIn]
    exact congrArg Prod.fst same
  · exact List.Sublist.refl _

end Registry

theorem TableMetadata.Joins.bidirectional {metadata : TableMetadata} {mode : ManyToManyMode}
    {key : LinkKey} (joins : metadata.Joins mode key) : metadata.Joins .bidirectional key := by
  obtain ⟨first, second, left, right, keys, leftEnd, rightEnd, same | ⟨_, same⟩⟩ := joins
  · exact ⟨first, second, left, right, keys, leftEnd, rightEnd, Or.inl same⟩
  · exact ⟨first, second, left, right, keys, leftEnd, rightEnd, Or.inr ⟨rfl, same⟩⟩

theorem TableMetadata.Joins.swap {metadata : TableMetadata} {key : LinkKey}
    (joins : metadata.Joins .bidirectional key) : metadata.Joins .bidirectional key.swap := by
  obtain ⟨first, second, left, right, keys, leftEnd, rightEnd, rfl | ⟨_, rfl⟩⟩ := joins
  · exact ⟨first, second, left, right, keys, leftEnd, rightEnd, Or.inr ⟨rfl, rfl⟩⟩
  · exact ⟨first, second, left, right, keys, leftEnd, rightEnd, Or.inl rfl⟩

namespace Registry

variable {registry : Registry} {junctions : List Text} {config : Config} {link : Relationship}

theorem map_found_subset_bidirectional (registry : Registry) (junctions : List Text) (config : Config) :
    (registry.found junctions { config with manyToMany := .single }).map Relationship.key ⊆
      (registry.found junctions { config with manyToMany := .bidirectional }).map Relationship.key := by
  intro key
  rw [mem_map_found, mem_map_found]
  rintro (declares | ⟨metadata, listed, joins⟩ | suggests)
  · exact Or.inl declares
  · exact Or.inr (Or.inl ⟨metadata, listed, joins.bidirectional⟩)
  · exact Or.inr (Or.inr suggests)

theorem Classifies.ne_manyToMany {key : LinkKey} {cardinality : Cardinality}
    (classifies : registry.Classifies key cardinality) : cardinality ≠ .manyToMany := by
  rintro rfl
  rcases classifies with ⟨_, impossible⟩ | ⟨_, impossible⟩ <;> cases impossible

/-- Only junctions give relationships from many to many. -/
theorem joined_of_manyToMany (member : link ∈ registry.found junctions config)
    (many : link.cardinality = .manyToMany) : registry.Joined junctions config.manyToMany link.key := by
  have classified := registry.cardinality_classifies link.source link.target
  rcases found_cases member with ⟨_, whole⟩ | ⟨_, before, metadata, after, listed, joins, _⟩ | ⟨_, _, _, whole⟩
  · rw [whole] at many
    exact absurd many classified.ne_manyToMany
  · refine ⟨metadata, ?_, joins⟩
    rw [listed]
    simp
  · rw [whole] at many
    exact absurd many classified.ne_manyToMany

/-- In both directions, each relationship from many to many has its counterpart. -/
theorem swap_mem_found_bidirectional
    (member : link ∈ registry.found junctions { config with manyToMany := .bidirectional })
    (many : link.cardinality = .manyToMany) :
    link.key.swap ∈ (registry.found junctions
      { config with manyToMany := .bidirectional }).map Relationship.key := by
  obtain ⟨metadata, listed, joins⟩ := joined_of_manyToMany member many
  exact mem_map_found.mpr (Or.inr (Or.inl ⟨metadata, listed, joins.swap⟩))

end Registry

namespace Pipeline

/-- The results are the same but for their relationships. -/
structure SameTables (one other : Result) : Prop where
  tables : one.tables = other.tables
  junctionTables : one.junctionTables = other.junctionTables
  diagnostics : one.diagnostics = other.diagnostics

/-- All options start from one registry and the same diagnostics. -/
theorem inferSchema_eq_infer (script : Text) : ∃ (registry : Registry) (diagnostics : List Diagnostic),
    registry.IsComplete ∧
      ∀ config, inferSchema config script = infer config config.rules registry diagnostics := by
  obtain ⟨final, _, _, ran⟩ := run_stages Ddl.Dialect.standard_classifies script
  exact ⟨_, _, resolved_isComplete script, fun config => ran config config.rules⟩

/-- The options act monotonically. Without the pass over column names a schema lacks the relationships
by convention and keeps all else in its order; further name variants put relationships between those
that are there; and junctions in both directions keep each key that they have in one, with the
counterpart of each relationship from many to many. Nothing else changes. -/
theorem inferSchema_monotone (config : Config) (script : Text) :
    (let bare := inferSchema { config with conventions := false } script
      let full := inferSchema { config with conventions := true } script
      SameTables bare full ∧
        bare.relationships = full.relationships.filter (·.origin != .convention)) ∧
    (∀ more : List NameVariant,
      let narrow := inferSchema config script
      let wide := inferSchema
        { config with extraNameVariants := config.extraNameVariants ++ more } script
      SameTables narrow wide ∧ narrow.relationships.Sublist wide.relationships) ∧
    (let single := inferSchema { config with manyToMany := .single } script
      let both := inferSchema { config with manyToMany := .bidirectional } script
      SameTables single both ∧
        (single.relationships.map Relationship.key ⊆ both.relationships.map Relationship.key) ∧
        ∀ link ∈ both.relationships, link.cardinality = .manyToMany →
          (link.target, link.source) ∈ both.relationships.map Relationship.key) := by
  obtain ⟨registry, diagnostics, complete, ran⟩ := inferSchema_eq_infer script
  simp only [ran, infer_rules]
  refine ⟨⟨⟨rfl, rfl, rfl⟩, ?_⟩, fun more => ⟨⟨rfl, rfl, rfl⟩, ?_⟩, ⟨⟨rfl, rfl, rfl⟩, ?_, ?_⟩⟩
  · rw [Relationship.report, Registry.found_without_conventions, distinctSorted_filter _ nodup_map_found]
    rfl
  · exact distinctSorted_sublist
      (Registry.found_sublist_of_more_variants complete _ config more) nodup_map_found
  · intro key member
    rw [mem_map_report_found] at member ⊢
    exact Registry.map_found_subset_bidirectional registry _ config member
  · intro link member many
    rw [mem_map_report_found]
    exact Registry.swap_mem_found_bidirectional (mem_report_found.mp member) many

end Pipeline

end Schemata
