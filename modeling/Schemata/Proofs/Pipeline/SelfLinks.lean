import Schemata.Proofs.Pipeline.Options

/-!
Relationships by convention from a table to itself. A candidate is compared with the name of the table
letter by letter, but the table is looked up without regard to case. So a name variant that appends capitals
can lead back to the table it starts from, and no other variant can.
-/

namespace Schemata

open Text (InLowerCase)

theorem NameVariant.mem_apply {variant : NameVariant} {stem : Text} {c : Char}
    (member : c ∈ variant.apply stem) : c ∈ stem ∨ c ∈ variant.append := by
  unfold apply at member
  split at member
  · exact List.mem_append.mp member
  · split at member
    · cases member
    · exact (List.mem_append.mp member).imp_left List.mem_of_mem_take

/-- A variant that appends small letters makes a name in lower case. -/
theorem NameVariant.apply_inLowerCase {variant : NameVariant} (small : InLowerCase variant.append)
    (stem : Text) : InLowerCase (variant.apply (Text.lower stem)) := by
  refine Text.lowerFrom_of_settled (fun c member => ?_) []
  rcases mem_apply member with inStem | appended
  · exact Text.isSettled_of_mem_lower inStem
  · rw [← small] at appended
    exact Text.isSettled_of_mem_lower appended

namespace Config

/-- A name variant makes another spelling of the table's own name out of the name of a column. -/
def Respells (config : Config) (table column : Text) : Prop :=
  ∃ stem candidate, HasIdStem column stem ∧ config.Names stem candidate ∧ candidate ≠ table ∧
    Text.lower candidate = table

/-- The pass over column names leads from a column of the table back into the table. -/
structure LeadsBack (config : Config) (table : Table) (column key : Column) : Prop where
  asked : config.conventions = true
  free : column.foreignKey = none
  respelt : config.Respells table.name column.name
  target : table.column? config.targetColumn = some key
  fits : areTypesCompatible column.dataType key.dataType = true

theorem not_respells {config : Config}
    (small : ∀ variant ∈ config.nameVariants ++ config.extraNameVariants, InLowerCase variant.append)
    (table column : Text) : ¬ config.Respells table column := by
  rintro ⟨stem, candidate, _, ⟨_, variant, listed, rfl⟩, other, same⟩
  exact other ((NameVariant.apply_inLowerCase (small variant listed) stem).symm.trans same)

end Config

namespace Registry.IsComplete

variable {registry : Registry} {config : Config}

/-- What the names of columns suggest between a table and itself. -/
theorem suggests_self_iff (complete : registry.IsComplete) (asked : config.conventions = true)
    {key : LinkKey} :
    registry.Suggests config key ∧ key.1.table = key.2.table ↔
      ∃ metadata ∈ registry.tables, ∃ column ∈ metadata.table.columns, ∃ target,
        config.LeadsBack metadata.table column target ∧
          key = (⟨metadata.name, column.name⟩, ⟨metadata.name, target.name⟩) := by
  constructor
  · rintro ⟨⟨metadata, registered, column, present, free, stem, stemmed, candidate, named, other, found,
      lookup, target, targeted, fits, rfl⟩, same⟩
    obtain ⟨foundIn, spelt⟩ := (get?_eq_some complete.distinct).mp lookup
    obtain rfl := complete.eq_of_name registered foundIn same
    have lower : Text.lower metadata.name = Text.lower candidate := by
      simpa only [hasName, beq_iff_eq] using spelt
    rw [(complete.wellFormed metadata registered).name] at lower
    exact ⟨metadata, registered, column, present, target,
      ⟨asked, free, ⟨stem, candidate, stemmed, named, other, lower.symm⟩, targeted, fits⟩, rfl⟩
  · rintro ⟨metadata, registered, column, present, target, back, rfl⟩
    obtain ⟨stem, candidate, stemmed, named, other, lower⟩ := back.respelt
    have lookup : registry.get? candidate = some metadata := by
      refine (get?_eq_some complete.distinct).mpr ⟨registered, ?_⟩
      rw [hasName, lower, (complete.wellFormed metadata registered).name]
      exact beq_self_eq_true _
    exact ⟨⟨metadata, registered, column, present, back.free, stem, stemmed, candidate, named, other,
      metadata, lookup, target, back.target, back.fits, rfl⟩, rfl⟩

/-- A column without a reference is the source of no declared key. -/
theorem not_declares (complete : registry.IsComplete) {metadata : TableMetadata}
    (registered : metadata ∈ registry.tables) {column : Column}
    (present : column ∈ metadata.table.columns) (free : column.foreignKey = none) (junctions : List Text)
    (target : ColumnReference) :
    ¬ registry.Declares junctions (⟨metadata.name, column.name⟩, target) := by
  rintro ⟨owner, ownerIn, _, foreignKey, declared, name, referenced, pairs, same⟩
  obtain ⟨⟨table, rfl⟩, _⟩ : (metadata.name = owner.name ∧ column.name = name) ∧ _ := by
    simpa only [Prod.mk.injEq, ColumnReference.mk.injEq] using same
  obtain rfl := complete.eq_of_name registered ownerIn table
  exact (complete.unreferenced metadata registered column present).mp free foreignKey declared
    (Constraint.mem_columns_of_pairs pairs)

end Registry.IsComplete

namespace Pipeline

/-- A relationship by convention from a table to itself comes from a variant that spells the name of the
table otherwise, and each such variant leads to one, unless a junction table joins the same columns. So
variants that append small letters never link a table to itself. -/
theorem inferSchema_selfLinks (config : Config) (script : Text) :
    let result := inferSchema config script
    (∀ link ∈ result.relationships, link.origin = .convention → link.source.table = link.target.table →
      ∃ table ∈ result.tables, ∃ column ∈ table.columns, ∃ key, config.LeadsBack table column key ∧
        link.key = (⟨table.name, column.name⟩, ⟨table.name, key.name⟩)) ∧
    (∀ table ∈ result.tables, ∀ column ∈ table.columns, ∀ key, config.LeadsBack table column key →
      ∃ link ∈ result.relationships,
        link.key = (⟨table.name, column.name⟩, ⟨table.name, key.name⟩) ∧
          (link.origin = .convention ∨ link.origin = .junction)) ∧
    ((∀ variant ∈ config.nameVariants ++ config.extraNameVariants, InLowerCase variant.append) →
      ∀ link ∈ result.relationships, link.origin = .convention →
        link.source.table ≠ link.target.table) := by
  obtain ⟨registry, diagnostics, complete, ran⟩ := inferSchema_eq_infer script
  have inferred := inferred_report_found registry ((junctionsOf config registry).map Text.lower) config
  intro result
  have links : result.relationships = Relationship.report
      (registry.found ((junctionsOf config registry).map Text.lower) config) := by
    rw [show result = _ from ran config, infer_rules]
  have tables : result.tables = registry.tables.map TableMetadata.table := by
    rw [show result = _ from ran config, infer_rules]
  rw [links, tables]
  refine ⟨?_, ?_, ?_⟩
  · intro link listed convention same
    obtain ⟨asked, suggests⟩ := inferred.asked_and_suggests_of_convention listed convention
    obtain ⟨metadata, registered, column, present, key, back, ends⟩ :=
      (complete.suggests_self_iff asked).mp ⟨suggests, same⟩
    exact ⟨metadata.table, List.mem_map_of_mem registered, column, present, key, back, ends⟩
  · intro table member column present key back
    obtain ⟨metadata, registered, rfl⟩ := List.mem_map.mp member
    have suggests := ((complete.suggests_self_iff back.asked).mpr
      ⟨metadata, registered, column, present, key, back, rfl⟩).1
    obtain ⟨link, listed, ends⟩ :=
      List.mem_map.mp ((inferred.complete _).mpr (Or.inr (Or.inr ⟨back.asked, suggests⟩)))
    have undeclared := complete.not_declares registered present back.free
      ((junctionsOf config registry).map Text.lower) ⟨metadata.name, key.name⟩
    refine ⟨link, listed, ends, ?_⟩
    rw [← ends] at undeclared
    by_cases joins : registry.Joined ((junctionsOf config registry).map Text.lower)
        config.manyToMany link.key
    · exact Or.inr (inferred.joined link listed undeclared joins).1
    · exact Or.inl (inferred.suggested link listed undeclared joins).1
  · intro small link listed convention same
    obtain ⟨asked, suggests⟩ := inferred.asked_and_suggests_of_convention listed convention
    obtain ⟨metadata, _, column, _, key, back, _⟩ :=
      (complete.suggests_self_iff asked).mp ⟨suggests, same⟩
    exact Config.not_respells small _ _ back.respelt

/-- A variant that appends a capital, and a table that it leads back to. -/
def capitalEnding : Config :=
  { extraNameVariants := [{ append := "S".toList }] }

theorem inferSchema_selfLinks_capitalEnding :
    let result := inferSchema capitalEnding "CREATE TABLE users (id INT, user_id INT)".toList
    ∃ link ∈ result.relationships, link.origin = .convention ∧ link.source.table = link.target.table ∧
      ∃ table ∈ result.tables, ∃ column ∈ table.columns, ∃ key,
        capitalEnding.LeadsBack table column key ∧
          link.key = (⟨table.name, column.name⟩, ⟨table.name, key.name⟩) := by
  intro result
  have found : ∃ link ∈ result.relationships, link.origin = .convention ∧
      link.source.table = link.target.table := by decide +kernel
  obtain ⟨link, listed, convention, same⟩ := found
  exact ⟨link, listed, convention, same,
    (inferSchema_selfLinks capitalEnding _).1 link listed convention same⟩

end Pipeline

end Schemata
