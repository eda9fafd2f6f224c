import Schemata.Proofs.Inference.Alike
import Schemata.Proofs.Script.Balanced

/-!
A table body with one more constraint at its end. The table that it makes is like the one of the shorter
body that takes the constraint afterwards, although a primary key moves to the head of the constraints.
-/

namespace Schemata

namespace TableMetadata

variable {metadata : TableMetadata} {constraint : Constraint}

/-- A constraint that may be added leaves a column of the primary key one. -/
theorem isNamed_primaryKeyColumns_of_append (allowed : constraint.kind = .primaryKey → metadata.primaryKey? = none)
    {column : Column} (marked : (metadata.primaryKeyColumns.any fun name => column.isNamed name) = true) :
    ((primaryKeyColumns { metadata with constraints := metadata.constraints ++ [constraint] }).any
      fun name => column.isNamed name) = true := by
  have same : primaryKeyColumns { metadata with constraints := metadata.constraints ++ [constraint] } =
      metadata.primaryKeyColumns := by
    refine primaryKeyColumns_append_of_ne fun key => ?_
    rw [primaryKeyColumns, allowed key] at marked
    cases marked
  rwa [same]

theorem firstOf_references_or_append (metadata : TableMetadata) (constraint : Constraint) (column : Column) :
    (column.firstOf metadata.references).or
        (column.firstOf (references { metadata with constraints := metadata.constraints ++ [constraint] })) =
      column.firstOf (references { metadata with constraints := metadata.constraints ++ [constraint] }) := by
  have more : references { metadata with constraints := metadata.constraints ++ [constraint] } =
      metadata.references ++ ([constraint].filter fun constraint =>
        constraint.kind == .foreignKey).flatMap Constraint.references := by
    simp only [references, foreignKeys, List.filter_append, List.flatMap_append]
  rw [more, Column.firstOf_append, ← Option.or_assoc, Option.or_self]

/-- Of the flags that are set in turn, only those count that are set last. -/
theorem flagged_comp_flagged (allowed : constraint.kind = .primaryKey → metadata.primaryKey? = none) :
    flagged { metadata with constraints := metadata.constraints ++ [constraint] } ∘ metadata.flagged =
      flagged { metadata with constraints := metadata.constraints ++ [constraint] } := by
  let longer : TableMetadata := { metadata with constraints := metadata.constraints ++ [constraint] }
  funext column
  have flag : ((column.primaryKey || metadata.primaryKeyColumns.any fun name => column.isNamed name) ||
      longer.primaryKeyColumns.any fun name => column.isNamed name) =
      (column.primaryKey || longer.primaryKeyColumns.any fun name => column.isNamed name) := by
    rw [Bool.eq_iff_iff]
    simp only [Bool.or_eq_true]
    exact ⟨fun either => either.elim (Or.imp_right (isNamed_primaryKeyColumns_of_append allowed)) Or.inr,
      Or.imp_left Or.inl⟩
  have reference : (column.foreignKey.or (column.firstOf metadata.references)).or
      (column.firstOf longer.references) = column.foreignKey.or (column.firstOf longer.references) := by
    rw [Option.or_assoc, firstOf_references_or_append]
  exact congrArg₂ (fun marked refers => { column with primaryKey := marked, foreignKey := refers }) flag reference

/-- Flags that are set before a constraint is taken are those that are set once it is taken. -/
theorem take_applyConstraintFlags (distinct : metadata.table.Distinct)
    (allowed : constraint.kind = .primaryKey → metadata.primaryKey? = none) :
    metadata.applyConstraintFlags.take constraint =
      applyConstraintFlags { metadata with constraints := metadata.constraints ++ [constraint] } := by
  let longer : TableMetadata := { metadata with constraints := metadata.constraints ++ [constraint] }
  let again : TableMetadata :=
    { metadata.applyConstraintFlags with constraints := metadata.constraints ++ [constraint] }
  have refused : ¬ (constraint.kind = .primaryKey ∧ metadata.applyConstraintFlags.primaryKey?.isSome = true) := by
    rintro ⟨key, some'⟩
    have none' : metadata.applyConstraintFlags.primaryKey? = none := allowed key
    rw [none'] at some'
    cases some'
  have table : again.applyConstraintFlags.table = longer.applyConstraintFlags.table := by
    have flagged : again.table.Distinct := applyConstraintFlags_distinct distinct
    rw [applyConstraintFlags_table flagged, applyConstraintFlags_table (show longer.table.Distinct from distinct)]
    change ({ metadata.applyConstraintFlags.table with
      columns := metadata.applyConstraintFlags.table.columns.map longer.flagged } : Table) = _
    rw [applyConstraintFlags_table distinct, List.map_map, flagged_comp_flagged allowed]
  rw [take, if_neg refused]
  exact congrArg (fun table => (⟨table, longer.constraints, longer.indexes⟩ : TableMetadata)) table

/-- A primary key may stand before the other constraints or behind them, under any name. -/
theorem alike_of_moved_key {key moved : Constraint} {others : List Constraint} (kind : key.kind = .primaryKey)
    (kind' : moved.kind = .primaryKey) (columns : key.columns = moved.columns)
    (keyless : (others.filter fun constraint => constraint.kind == .primaryKey) = [])
    (table : Table) (indexes : List IndexDefinition) :
    Alike ⟨table, key :: others, indexes⟩ ⟨table, others ++ [moved], indexes⟩ where
  table := rfl
  foreignKeys := by simp [foreignKeys, List.filter_append, kind, kind']
  primaryKey := by
    simp only [primaryKey?, ← List.head?_filter, List.filter_append, keyless]
    simp [kind, kind', columns]
  keys names := by
    simp only [HasKey, List.mem_cons, List.mem_append, List.not_mem_nil, or_false, or_and_right, exists_or,
      exists_eq_left, kind, kind', columns]
    exact or_comm

end TableMetadata

namespace Ddl

open Text

theorem Draft.distinct_eq_self : {list : List Text} → list.Nodup → distinct list = list
  | [], _ => rfl
  | name :: rest, nodup => by
      obtain ⟨new, further⟩ := List.nodup_cons.mp nodup
      rw [distinct, distinct_eq_self further, List.filter_eq_self.mpr]
      intro other member
      rw [bne_iff_ne]
      rintro rfl
      exact new member

theorem collect_concat {α β : Type} {read : α → Except Fault β} {list : List α} {found : List β} {a : α} {b : β}
    (all : collect read list = (found, none)) (last : read a = .ok b) :
    collect read (list ++ [a]) = (found ++ [b], none) := by
  induction list generalizing found with
  | nil =>
      obtain rfl : found = [] := (Prod.mk.inj all).1.symm
      simp [collect, last]
  | cons c rest ih =>
      rw [collect] at all
      cases here : read c with
      | error fault =>
          rw [here] at all
          cases all
      | ok d =>
          rw [here] at all
          cases further : collect read rest with
          | mk ds fault =>
          rw [further] at all
          obtain ⟨rfl, rfl⟩ := Prod.mk.inj all
          simp [collect, here, ih further]

namespace Draft

variable {draft : Draft} {constraint : Constraint}

theorem mergedConstraints_of_keyless (table : Table) (indexes : List IndexDefinition)
    (keyless : TableMetadata.primaryKey? ⟨table, draft.mergedConstraints, indexes⟩ = none) :
    draft.inlineKey = [] ∧ draft.declaredKeys = [] := by
  rw [TableMetadata.primaryKey?, mergedConstraints] at keyless
  split at keyless
  · rename_i none'
    simpa using none'
  · rw [List.find?_cons_of_pos (by rfl)] at keyless
    cases keyless

/-- A constraint that is no primary key is the last one of the longer draft. -/
theorem mergedConstraints_add (other : constraint.kind ≠ .primaryKey) :
    (draft.add (.constraint constraint)).mergedConstraints = draft.mergedConstraints ++ [constraint] := by
  have declared : (draft.add (.constraint constraint)).declaredKeys = draft.declaredKeys := by
    simp [add, declaredKeys, List.filter_append, other]
  have others : (draft.add (.constraint constraint)).otherConstraints = draft.otherConstraints ++ [constraint] := by
    simp [add, otherConstraints, List.filter_append, other]
  have inline : (draft.add (.constraint constraint)).inlineKey = draft.inlineKey := rfl
  unfold mergedConstraints mergedKey
  rw [declared, others, inline]
  split <;> rfl

/-- The first primary key of a draft stands at the head of its constraints. -/
theorem mergedConstraints_add_key (inline : draft.inlineKey = []) (declared : draft.declaredKeys = [])
    (key : constraint.kind = .primaryKey) (nodup : constraint.columns.Nodup) :
    draft.mergedConstraints = draft.otherConstraints ∧ ∃ merged : Constraint, merged.kind = .primaryKey ∧
      merged.columns = constraint.columns ∧
      (draft.add (.constraint constraint)).mergedConstraints = merged :: draft.otherConstraints := by
  have declared' : (draft.add (.constraint constraint)).declaredKeys = [constraint] := by
    have none' : (draft.constraints.filter fun constraint => constraint.kind == .primaryKey) = [] := declared
    simp [add, declaredKeys, List.filter_append, key, none']
  have others : (draft.add (.constraint constraint)).otherConstraints = draft.otherConstraints := by
    simp [add, otherConstraints, List.filter_append, key]
  have inline' : (draft.add (.constraint constraint)).inlineKey = [] := inline
  refine ⟨by simp [mergedConstraints, inline, declared], (draft.add (.constraint constraint)).mergedKey, rfl, ?_, ?_⟩
  · rw [mergedKey, inline', declared', List.flatMap_singleton, List.nil_append, distinct_eq_self nodup]
  · rw [mergedConstraints, inline', declared', others]
    rfl

/-- The table of a longer draft is like the one that takes the constraint afterwards. -/
theorem alike_add_constraint (wellFormed : draft.WellFormed) {table : Text} (lower : InLowerCase table)
    (firstKey : constraint.kind = .primaryKey →
      (draft.metadata table).primaryKey? = none ∧ constraint.columns.Nodup) :
    ((draft.add (.constraint constraint)).metadata table).Alike ((draft.metadata table).take constraint) := by
  have taken := TableMetadata.take_applyConstraintFlags (wellFormed.unflagged lower).distinct fun key => (firstKey key).1
  rw [show (draft.metadata table).take constraint = _ from taken]
  refine TableMetadata.Alike.applyConstraintFlags ?_
  change TableMetadata.Alike ⟨⟨table, draft.columns⟩, (draft.add (.constraint constraint)).mergedConstraints, draft.indexes⟩
    ⟨⟨table, draft.columns⟩, draft.mergedConstraints ++ [constraint], draft.indexes⟩
  by_cases key : constraint.kind = .primaryKey
  · obtain ⟨keyless, nodup⟩ := firstKey key
    obtain ⟨inline, declared⟩ := mergedConstraints_of_keyless ⟨table, draft.columns⟩ draft.indexes keyless
    obtain ⟨others, merged, kind, columns, whole⟩ := mergedConstraints_add_key inline declared key nodup
    rw [others, whole]
    exact TableMetadata.alike_of_moved_key kind key columns filter_primaryKey_otherConstraints _ _
  · rw [mergedConstraints_add key]
    exact .refl _

end Draft

/-- What a table statement gives, in terms of the entries of its body. -/
theorem Reading.ofCreateTable_metadata_eq_some {dialect : Dialect} {statement table body : Text} {reading : Reading}
    {metadata : TableMetadata} (blank : reading.metadata = none)
    (created : dialect.createTable statement = .ok (table, body)) :
    (ofCreateTable dialect statement reading).metadata = some metadata ↔
      ∃ entries, collect (readEntry dialect) (Script.items body) = (entries, none) ∧
        (Draft.ofEntries entries).columns ≠ [] ∧ (Draft.ofEntries entries).metadata table = metadata := by
  unfold ofCreateTable
  rw [created]
  dsimp only
  cases read : collect (readEntry dialect) (Script.items body) with
  | mk entries fault =>
  cases fault with
  | some fault => simp [fail, blank]
  | none =>
      dsimp only
      by_cases columns : (Draft.ofEntries entries).columns = []
      · simp [columns, fail, blank]
      · simp [columns]

/-- The kinds of definitions that stand for a constraint. -/
def constraintKinds : List DefinitionKind :=
  [.primaryKey, .foreignKey, .unique, .check, .constraint]

theorem readEntry_of_constraint {definition : Text} {constraint : Constraint}
    (kind : classifyDefinition definition ∈ constraintKinds)
    (read : Dialect.standard.constraint definition = .ok constraint) :
    readEntry Dialect.standard definition = .ok (.constraint constraint) := by
  have classified : Dialect.standard.classifyDefinition definition = .ok (classifyDefinition definition) := rfl
  simp only [constraintKinds, List.mem_cons, List.not_mem_nil, or_false] at kind
  unfold readEntry
  rw [classified, read]
  rcases kind with kind | kind | kind | kind | kind <;> rw [kind] <;> rfl

end Ddl

end Schemata
