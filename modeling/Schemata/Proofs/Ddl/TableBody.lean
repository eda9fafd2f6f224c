import Schemata.Proofs.Ddl.Names
import Schemata.Proofs.Ddl.StatementCases
import Schemata.Proofs.Schema.Flags

/-!
What the entries of a body make of a table: its columns have distinct names, its constraints are
normal, its foreign keys are those of the entries that were taken, in the order of the text, and each
column refers to what the first reference for it leads to.
-/

namespace Schemata

open Text (InLowerCase)

namespace TableMetadata

/-- A table as readings make it and changes keep it. -/
structure WellFormed (metadata : TableMetadata) : Prop where
  name : InLowerCase metadata.name
  columns : ∀ column ∈ metadata.table.columns, InLowerCase column.name
  distinct : metadata.table.Distinct
  constraints : ∀ constraint ∈ metadata.constraints, constraint.IsNormal

theorem kind_of_mem_foreignKeys {metadata : TableMetadata} {key : Constraint}
    (declared : key ∈ metadata.foreignKeys) : key.kind = .foreignKey := by
  simpa using (List.mem_filter.mp declared).2

theorem WellFormed.foreignKeys {metadata : TableMetadata} (wellFormed : metadata.WellFormed) :
    ∀ key ∈ metadata.foreignKeys, key.IsNormal := fun key declared =>
  wellFormed.constraints key (List.mem_of_mem_filter declared)

/-- Each column refers to what the first reference for it leads to. -/
def ShowsReferences (metadata : TableMetadata) : Prop :=
  ∀ column ∈ metadata.table.columns, column.foreignKey = column.firstOf metadata.references

/-- A well-formed table whose columns show its references. -/
structure Consistent (metadata : TableMetadata) : Prop extends WellFormed metadata where
  shown : metadata.ShowsReferences

theorem WellFormed.applyConstraintFlags {metadata : TableMetadata} (wellFormed : metadata.WellFormed) :
    metadata.applyConstraintFlags.WellFormed where
  name := by
    rw [applyConstraintFlags_name]
    exact wellFormed.name
  columns := by
    rw [applyConstraintFlags_table wellFormed.distinct]
    intro column member
    obtain ⟨old, present, rfl⟩ := List.mem_map.mp member
    exact wellFormed.columns old present
  distinct := applyConstraintFlags_distinct wellFormed.distinct
  constraints := wellFormed.constraints

/-- A table whose columns refer to nothing yet, or to what its first references lead to, shows its
references once the flags are set. -/
theorem showsReferences_applyConstraintFlags {metadata : TableMetadata} (distinct : metadata.table.Distinct)
    (early : ∀ column ∈ metadata.table.columns,
      column.foreignKey.or (column.firstOf metadata.references) = column.firstOf metadata.references) :
    metadata.applyConstraintFlags.ShowsReferences := by
  intro column member
  rw [applyConstraintFlags_table distinct] at member
  obtain ⟨old, present, rfl⟩ := List.mem_map.mp member
  exact early old present

end TableMetadata

namespace Ddl

theorem mem_collect {α β : Type} {read : α → Except Fault β} {list : List α} {b : β}
    (member : b ∈ (collect read list).1) : ∃ a ∈ list, read a = .ok b := by
  induction list with
  | nil => simp [collect] at member
  | cons a rest ih =>
      unfold collect at member
      split at member
      · simp at member
      · rename_i c found
        rcases List.mem_cons.mp member with rfl | later
        · exact ⟨a, by simp, found⟩
        · obtain ⟨d, inside, made⟩ := ih later
          exact ⟨d, by simp [inside], made⟩

theorem collect_of_ok {α β : Type} {read : α → Except Fault β} {value : α → β}
    (total : ∀ a, read a = .ok (value a)) (list : List α) : collect read list = (list.map value, none) := by
  induction list with
  | nil => rfl
  | cons a rest ih => simp only [collect, total, ih, List.map_cons]

theorem orElseDefect_eq_ok {α : Type} {result : Except Fault α} {recover : Defect → α} {a : α} :
    orElseDefect result recover = .ok a ↔
      result = .ok a ∨ ∃ defect, result = .error (.defect defect) ∧ recover defect = a := by
  unfold orElseDefect
  split
  · rename_i defect
    simp
  · rename_i other
    constructor
    · exact Or.inl
    · rintro (same | ⟨defect, same, _⟩)
      · exact same
      · exact absurd same (other defect)

namespace Entry

/-- The names of an entry are in lower case, and its constraint is normal. -/
def IsNormal : Entry → Prop
  | .column read => InLowerCase read.name
  | .constraint read => read.IsNormal
  | .index _ => True
  | .rejected _ => True

def foreignKeys : Entry → List Constraint
  | .column read => (inlineConstraints read).filter fun constraint => constraint.kind == .foreignKey
  | .constraint read => [read].filter fun constraint => constraint.kind == .foreignKey
  | .index _ => []
  | .rejected _ => []

/-- The entries that a table takes after columns of these names: a column of a name that is taken is
left out. -/
def taken (names : List Text) : List Entry → List Entry
  | [] => []
  | .column read :: rest =>
      if names.contains read.name then taken names rest
      else .column read :: taken (names ++ [read.name]) rest
  | entry :: rest => entry :: taken names rest

end Entry

theorem readEntry_isNormal {dialect : Dialect} (normal : dialect.IsNormal) {definition : Text}
    {entry : Entry} (read : readEntry dialect definition = .ok entry) : entry.IsNormal := by
  rcases orElseDefect_eq_ok.mp read with read | ⟨defect, _, rfl⟩
  · obtain ⟨kind, _, read⟩ := bind_eq_ok.mp read
    cases kind with
    | column =>
        obtain ⟨column, made, same⟩ := bind_eq_ok.mp read
        cases same
        exact normal.column made
    | index =>
        obtain ⟨index, _, same⟩ := bind_eq_ok.mp read
        cases same
        exact trivial
    | _ =>
        obtain ⟨constraint, made, same⟩ := bind_eq_ok.mp read
        cases same
        exact normal.constraint made
  · exact trivial

theorem inlineConstraints_isNormal {column : ColumnDefinition} (lower : InLowerCase column.name) :
    ∀ constraint ∈ inlineConstraints column, constraint.IsNormal := by
  intro constraint member
  suffices shape : constraint.columns = [column.name] ∧
      (constraint.kind = .foreignKey → ∃ table, constraint.referencedTable = some table) by
    refine ⟨fun name inside => ?_, shape.2⟩
    rw [shape.1, List.mem_singleton] at inside
    rwa [inside]
  simp only [inlineConstraints, List.mem_append] at member
  rcases member with (unique | reference) | check
  · split at unique
    · obtain rfl := List.mem_singleton.mp unique
      simp
    · simp at unique
  · split at reference
    · obtain rfl := List.mem_singleton.mp reference
      simp
    · simp at reference
  · split at check
    · obtain rfl := List.mem_singleton.mp check
      simp
    · simp at check

namespace Draft

/-- What the entries read so far make of a table. -/
structure WellFormed (draft : Draft) : Prop where
  columns : ∀ column ∈ draft.columns, InLowerCase column.name ∧ column.foreignKey = none
  distinct : (draft.columns.map Column.name).Nodup
  constraints : ∀ constraint ∈ draft.constraints, constraint.IsNormal
  inlineKey : ∀ name ∈ draft.inlineKey, InLowerCase name

theorem WellFormed.addColumn {draft : Draft} (wellFormed : draft.WellFormed) {column : ColumnDefinition}
    (lower : InLowerCase column.name) : (draft.addColumn column).WellFormed := by
  unfold Draft.addColumn
  split
  · exact ⟨wellFormed.columns, wellFormed.distinct, wellFormed.constraints, wellFormed.inlineKey⟩
  · rename_i fresh
    simp only [List.any_eq_true, beq_iff_eq, not_exists, not_and] at fresh
    refine ⟨fun other member => ?_, ?_, fun constraint member => ?_, fun name member => ?_⟩
    · rcases List.mem_append.mp member with old | new
      · exact wellFormed.columns other old
      · obtain rfl := List.mem_singleton.mp new
        exact ⟨lower, rfl⟩
    · rw [List.map_append, List.map_singleton]
      refine wellFormed.distinct.append (List.nodup_singleton _) ?_
      rw [List.disjoint_singleton]
      intro taken
      obtain ⟨other, present, same⟩ := List.mem_map.mp taken
      exact fresh other present same
    · rcases List.mem_append.mp member with old | new
      · exact wellFormed.constraints constraint old
      · exact inlineConstraints_isNormal lower constraint new
    · rcases List.mem_append.mp member with old | new
      · exact wellFormed.inlineKey name old
      · split at new
        · rwa [List.mem_singleton.mp new]
        · simp at new

theorem WellFormed.add {draft : Draft} (wellFormed : draft.WellFormed) {entry : Entry}
    (normal : entry.IsNormal) : (draft.add entry).WellFormed := by
  cases entry with
  | column read => exact wellFormed.addColumn normal
  | constraint read =>
      refine ⟨wellFormed.columns, wellFormed.distinct, fun constraint member => ?_, wellFormed.inlineKey⟩
      rcases List.mem_append.mp member with old | new
      · exact wellFormed.constraints constraint old
      · rwa [List.mem_singleton.mp new]
  | index read =>
      exact ⟨wellFormed.columns, wellFormed.distinct, wellFormed.constraints, wellFormed.inlineKey⟩
  | rejected defect =>
      exact ⟨wellFormed.columns, wellFormed.distinct, wellFormed.constraints, wellFormed.inlineKey⟩

theorem ofEntries_wellFormed {entries : List Entry} (normal : ∀ entry ∈ entries, entry.IsNormal) :
    (ofEntries entries).WellFormed := by
  suffices general : ∀ draft : Draft, draft.WellFormed → (entries.foldl add draft).WellFormed from
    general {} ⟨by simp, List.nodup_nil, by simp, by simp⟩
  induction entries with
  | nil => exact fun _ wellFormed => wellFormed
  | cons entry rest ih =>
      intro draft wellFormed
      exact ih (fun other member => normal other (List.mem_cons_of_mem entry member)) _
        (wellFormed.add (normal entry (List.mem_cons_self ..)))

theorem mem_distinct {list : List Text} {name : Text} : name ∈ distinct list ↔ name ∈ list := by
  induction list with
  | nil => rfl
  | cons first rest ih =>
      simp only [distinct, List.mem_cons, List.mem_filter, ih, bne_iff_ne]
      by_cases same : name = first <;> simp [same]

theorem WellFormed.mergedKey {draft : Draft} (wellFormed : draft.WellFormed) :
    draft.mergedKey.IsNormal := by
  refine ⟨fun name member => ?_, fun same => by cases same⟩
  rcases List.mem_append.mp (mem_distinct.mp member) with inline | listed
  · exact wellFormed.inlineKey name inline
  · obtain ⟨key, declared, inside⟩ := List.mem_flatMap.mp listed
    exact (wellFormed.constraints key (List.mem_of_mem_filter declared)).columns name inside

theorem WellFormed.mergedConstraints {draft : Draft} (wellFormed : draft.WellFormed) :
    ∀ constraint ∈ draft.mergedConstraints, constraint.IsNormal := by
  have others : ∀ constraint ∈ draft.otherConstraints, constraint.IsNormal := fun constraint member =>
    wellFormed.constraints constraint (List.mem_of_mem_filter member)
  unfold Draft.mergedConstraints
  split
  · exact others
  · intro constraint member
    rcases List.mem_cons.mp member with rfl | other
    · exact wellFormed.mergedKey
    · exact others constraint other

theorem WellFormed.unflagged {draft : Draft} (wellFormed : draft.WellFormed) {table : Text}
    (lower : InLowerCase table) :
    TableMetadata.WellFormed ⟨⟨table, draft.columns⟩, draft.mergedConstraints, draft.indexes⟩ where
  name := lower
  columns column member := (wellFormed.columns column member).1
  distinct := by
    have names : draft.columns.map (fun column => Text.lower column.name) =
        draft.columns.map Column.name :=
      List.map_congr_left fun column member => (wellFormed.columns column member).1
    rw [Table.Distinct, names]
    exact wellFormed.distinct
  constraints := wellFormed.mergedConstraints

theorem WellFormed.metadata {draft : Draft} (wellFormed : draft.WellFormed) {table : Text}
    (lower : InLowerCase table) : (draft.metadata table).Consistent := by
  have unflagged := wellFormed.unflagged lower
  refine ⟨unflagged.applyConstraintFlags,
    TableMetadata.showsReferences_applyConstraintFlags unflagged.distinct fun column member => ?_⟩
  rw [(wellFormed.columns column member).2, Option.none_or]

/-- Merging the primary keys leaves the foreign keys as they are. -/
theorem metadata_foreignKeys (draft : Draft) (table : Text) :
    (draft.metadata table).foreignKeys =
      draft.constraints.filter fun constraint => constraint.kind == .foreignKey := by
  have others : draft.otherConstraints.filter (fun constraint => constraint.kind == .foreignKey) =
      draft.constraints.filter fun constraint => constraint.kind == .foreignKey := by
    rw [otherConstraints, List.filter_filter]
    refine List.filter_congr fun constraint _ => ?_
    cases constraint.kind <;> rfl
  change draft.mergedConstraints.filter (fun constraint => constraint.kind == .foreignKey) = _
  unfold mergedConstraints
  split
  · exact others
  · rw [List.filter_cons_of_neg (by simp [mergedKey]), others]

theorem ofEntries_foreignKeys (entries : List Entry) :
    ((ofEntries entries).constraints.filter fun constraint => constraint.kind == .foreignKey) =
      (Entry.taken [] entries).flatMap Entry.foreignKeys := by
  suffices general : ∀ draft : Draft,
      ((entries.foldl add draft).constraints.filter fun constraint => constraint.kind == .foreignKey) =
        (draft.constraints.filter fun constraint => constraint.kind == .foreignKey) ++
          (Entry.taken (draft.columns.map Column.name) entries).flatMap Entry.foreignKeys from
    general {}
  induction entries with
  | nil => simp [Entry.taken]
  | cons entry rest ih =>
      intro draft
      rw [List.foldl_cons, ih]
      cases entry with
      | column read =>
          have seen : (draft.columns.any fun present => present.name == read.name) =
              (draft.columns.map Column.name).contains read.name := by
            rw [Bool.eq_iff_iff]
            simp
          -- A column whose name is taken brings none of its inline constraints.
          rw [Entry.taken]
          simp only [add, addColumn, seen]
          split
          · rfl
          · simp [Entry.foreignKeys]
      | constraint read => simp [add, Entry.taken, Entry.foreignKeys]
      | index read => simp [add, Entry.taken, Entry.foreignKeys]
      | rejected defect => simp [add, Entry.taken, Entry.foreignKeys]

end Draft

def entriesOf (dialect : Dialect) (body : Text) : List Entry :=
  (collect (readEntry dialect) (Script.items body)).1

theorem entriesOf_isNormal {dialect : Dialect} (normal : dialect.IsNormal) (body : Text) :
    ∀ entry ∈ entriesOf dialect body, entry.IsNormal := by
  intro entry member
  obtain ⟨definition, _, read⟩ := mem_collect member
  exact readEntry_isNormal normal read

/-- The foreign keys in the body of the table that a statement creates, in the order of the text. -/
def foreignKeysIn (dialect : Dialect) (statement : Text) : List Constraint :=
  match dialect.createTable statement with
  | .error _ => []
  | .ok (_, body) => (Entry.taken [] (entriesOf dialect body)).flatMap Entry.foreignKeys

namespace Reading

variable {dialect : Dialect} {kind : StatementKind} {statement : Text} {index : Nat} {reading : Reading}

/-- A statement that gives a table is one whose body makes it. -/
theorem exists_draft_of_ofKind {metadata : TableMetadata}
    (found : (ofKind dialect kind statement index).metadata = some metadata) :
    ∃ table body, dialect.createTable statement = .ok (table, body) ∧
      metadata = (Draft.ofEntries (entriesOf dialect body)).metadata table := by
  have given : (ofKind dialect kind statement index).metadata ≠ none := by simp [found]
  obtain ⟨table, body, entries, _, created, collected, same⟩ :=
    (arises_ofKind dialect kind statement index).exists_table (.inl given)
  rw [same] at found
  refine ⟨table, body, created, ?_⟩
  rw [entriesOf, collected]
  exact (Option.some.inj found).symm

/-- An accepted table statement gives a consistent table with the foreign keys of its body. -/
theorem Arises.consistent (arises : Arises dialect statement index .createTable reading) (normal : dialect.IsNormal)
    (accepted : reading.accepted = true) :
    ∃ metadata, reading.metadata = some metadata ∧
      metadata.Consistent ∧ metadata.foreignKeys = foreignKeysIn dialect statement := by
  obtain ⟨table, body, entries, _, created, collected, rfl⟩ := arises.exists_table (.inr ⟨rfl, accepted⟩)
  have read : entriesOf dialect body = entries := congrArg Prod.fst collected
  have entriesNormal := entriesOf_isNormal normal body
  rw [read] at entriesNormal
  refine ⟨_, rfl, (Draft.ofEntries_wellFormed entriesNormal).metadata (normal.table created), ?_⟩
  simp only [Draft.metadata_foreignKeys, Draft.ofEntries_foreignKeys, foreignKeysIn, created, read]

structure IsNormal (reading : Reading) : Prop where
  table : ∃ table, reading.tableName = some table ∧ InLowerCase table
  constraints : ∀ constraint ∈ reading.constraints, constraint.IsNormal
  index : reading.indexDefinition ≠ none → reading.constraints = []

/-- An accepted change names its table in lower case, and either adds normal constraints or an index. -/
theorem Arises.isNormal (arises : Arises dialect statement index kind reading) (normal : dialect.IsNormal)
    (changes : kind = .alterTable ∨ kind = .createIndex) (accepted : reading.accepted = true) : reading.IsNormal := by
  cases arises with
  | unreadTable | brokenTable | table | other => rcases changes with isChange | isIndex <;> contradiction
  | unreadChange | brokenChange | unreadIndex => cases accepted
  | change changed collected =>
      refine ⟨⟨_, rfl, normal.change changed⟩, fun constraint member => ?_, fun indexed => absurd rfl indexed⟩
      obtain ⟨outcome, inside, kept⟩ := List.mem_filterMap.mp member
      obtain ⟨definition, _, made⟩ := mem_collect (by rw [collected]; exact inside)
      rcases orElseDefect_eq_ok.mp made with made | ⟨defect, _, rfl⟩
      · obtain ⟨other, given, rfl⟩ := map_eq_ok.mp made
        cases kept
        exact normal.constraint given
      · cases kept
  | index created => exact ⟨⟨_, rfl, normal.creation created⟩, List.forall_mem_nil _, fun _ => rfl⟩

end Reading

end Ddl

end Schemata
