import Schemata.Proofs.Inference.Registry

/-!
What a column of a completed table refers to: the first of its foreign keys that wrote the referenced
columns decides, and the first of them all where none did.
-/

namespace Schemata

open Text (InLowerCase)

namespace Constraint

/-- The reference that a foreign key gives a column: the column paired with it, where it stands first
among the local columns. -/
def referenceOf (foreignKey : Constraint) (column : Text) : Option ForeignReference :=
  (foreignKey.columnPairs.lookup column).map fun referenced => ⟨foreignKey.referencedTable, referenced⟩

variable {foreignKey : Constraint} {column : Text}

theorem pairs_of_referenceOf {reference : ForeignReference}
    (found : foreignKey.referenceOf column = some reference) :
    foreignKey.Pairs column reference.column ∧ reference.table = foreignKey.referencedTable := by
  obtain ⟨referenced, paired, rfl⟩ := Option.map_eq_some_iff.mp found
  obtain ⟨before, after, whole, _⟩ := List.lookup_eq_some_iff.mp paired
  refine ⟨mem_columnPairs.mp ?_, rfl⟩
  rw [whole]
  simp

theorem mem_columns_of_pairs {referenced : Text} (pairs : foreignKey.Pairs column referenced) :
    column ∈ foreignKey.columns := by
  obtain ⟨index, found, _⟩ := pairs
  exact List.mem_of_getElem? found

theorem exists_pairs (explicit : foreignKey.referencedColumns ≠ [])
    (covered : column ∈ foreignKey.columns) : ∃ referenced, foreignKey.Pairs column referenced := by
  obtain ⟨index, found⟩ := List.mem_iff_getElem?.mp covered
  obtain ⟨first, others, columns⟩ := List.exists_cons_of_ne_nil explicit
  refine ⟨(foreignKey.referencedColumns[index]?).getD first, index, found, ?_⟩
  cases at_ : foreignKey.referencedColumns[index]? <;> simp [columns]

/-- A foreign key refers a column to something exactly if it covers the column and has its referenced
columns. -/
theorem referenceOf_eq_none :
    foreignKey.referenceOf column = none ↔
      foreignKey.referencedColumns = [] ∨ column ∉ foreignKey.columns := by
  rw [referenceOf, Option.map_eq_none_iff, List.lookup_eq_none_iff]
  constructor
  · intro free
    by_contra both
    rw [not_or, not_not] at both
    obtain ⟨referenced, pairs⟩ := exists_pairs both.1 both.2
    simpa using free _ (mem_columnPairs.mpr pairs)
  · rintro apart ⟨other, referenced⟩ member
    have pairs := mem_columnPairs.mp member
    rw [bne_iff_ne]
    rintro rfl
    rcases apart with implicit | uncovered
    · obtain ⟨index, _, paired⟩ := pairs
      simp [implicit] at paired
    · exact uncovered (mem_columns_of_pairs pairs)

end Constraint

namespace Column

variable {column : Column}

theorem isNamed_eq {name : Text} (lower : InLowerCase column.name) (other : InLowerCase name) :
    column.isNamed name = (column.name == name) := by
  rw [isNamed, lower, other]

theorem firstOf_references (lower : InLowerCase column.name) {foreignKey : Constraint}
    (normal : foreignKey.IsNormal) :
    column.firstOf foreignKey.references = foreignKey.referenceOf column.name := by
  have names : ∀ pair ∈ foreignKey.columnPairs, InLowerCase pair.1 := fun pair member =>
    normal.columns pair.1 (Constraint.mem_columns_of_pairs (Constraint.mem_columnPairs.mp member))
  unfold Constraint.references Constraint.referenceOf
  revert names
  induction foreignKey.columnPairs with
  | nil => exact fun _ => rfl
  | cons pair rest ih =>
      intro names
      have later := ih fun other member => names other (List.mem_cons_of_mem pair member)
      have named := isNamed_eq lower (names pair (List.mem_cons_self ..))
      rw [List.map_cons, firstOf, List.findSome?_cons, List.lookup_cons, named]
      cases column.name == pair.1
      · exact later
      · rfl

theorem firstOf_flatMap (lower : InLowerCase column.name) {foreignKeys : List Constraint}
    (normal : ∀ foreignKey ∈ foreignKeys, foreignKey.IsNormal) :
    column.firstOf (foreignKeys.flatMap Constraint.references) =
      foreignKeys.findSome? fun foreignKey => foreignKey.referenceOf column.name := by
  induction foreignKeys with
  | nil => rfl
  | cons foreignKey rest ih =>
      rw [List.flatMap_cons, firstOf_append,
        firstOf_references lower (normal foreignKey (List.mem_cons_self ..)),
        ih fun other member => normal other (List.mem_cons_of_mem foreignKey member),
        List.findSome?_cons]
      cases foreignKey.referenceOf column.name <;> rfl

end Column

namespace Registry

variable (registry : Registry) {metadata : TableMetadata}

theorem completeTable_foreignKey (consistent : metadata.Consistent)
    {column : Column} (member : column ∈ (registry.completeTable metadata).table.columns) :
    column.foreignKey =
      (metadata.foreignKeys.findSome? fun key => key.referenceOf column.name).or
        ((registry.completeTable metadata).foreignKeys.findSome? fun key => key.referenceOf column.name) := by
  obtain ⟨old, present, name, flag⟩ :=
    registry.completeTable_columns consistent column member
  have lower := consistent.columns old present
  have completed := registry.completeTable_wellFormed consistent.toWellFormed
  rw [flag, name, TableMetadata.references, TableMetadata.references,
    Column.firstOf_flatMap lower consistent.toWellFormed.foreignKeys,
    Column.firstOf_flatMap lower completed.foreignKeys]

/-- The reference of a column of a completed table is given by a foreign key of it. -/
theorem exists_key_of_foreignKey (consistent : metadata.Consistent)
    {column : Column} (member : column ∈ (registry.completeTable metadata).table.columns)
    {reference : ForeignReference} (refers : column.foreignKey = some reference) :
    ∃ key ∈ (registry.completeTable metadata).foreignKeys, key.Pairs column.name reference.column ∧
      reference.table = key.referencedTable := by
  have given : ∃ key ∈ (registry.completeTable metadata).foreignKeys,
      key.referenceOf column.name = some reference := by
    rw [registry.completeTable_foreignKey consistent member, Option.or_eq_some_iff] at refers
    rcases refers with early | ⟨_, late⟩
    · -- A key that was shown before completion has written columns, and completion leaves it as it is.
      obtain ⟨key, declared, given⟩ := List.exists_of_findSome?_eq_some early
      have explicit : key.referencedColumns ≠ [] := by
        intro implicit
        rw [Constraint.referenceOf_eq_none.mpr (Or.inl implicit)] at given
        cases given
      refine ⟨key, ?_, given⟩
      rw [completeTable_foreignKeys]
      exact List.mem_map.mpr ⟨key, declared, registry.complete_of_explicit explicit⟩
    · exact List.exists_of_findSome?_eq_some late
  obtain ⟨key, declared, given⟩ := given
  exact ⟨key, declared, Constraint.pairs_of_referenceOf given⟩

/-- A column of a completed table refers to nothing exactly if no foreign key covers it. -/
theorem foreignKey_eq_none_iff (consistent : metadata.Consistent)
    {column : Column} (member : column ∈ (registry.completeTable metadata).table.columns) :
    column.foreignKey = none ↔
      ∀ key ∈ (registry.completeTable metadata).foreignKeys, column.name ∉ key.columns := by
  constructor
  · intro free key declared covered
    rw [registry.completeTable_foreignKey consistent member, Option.or_eq_none_iff,
      List.findSome?_eq_none_iff, List.findSome?_eq_none_iff] at free
    rcases Constraint.referenceOf_eq_none.mp (free.2 key declared) with implicit | uncovered
    · rw [completeTable_foreignKeys] at declared
      obtain ⟨old, written, rfl⟩ := List.mem_map.mp declared
      exact registry.complete_referencedColumns (TableMetadata.kind_of_mem_foreignKeys written) implicit
    · exact uncovered covered
  · intro uncovered
    cases refers : column.foreignKey with
    | none => rfl
    | some reference =>
        obtain ⟨key, declared, pairs, _⟩ :=
          registry.exists_key_of_foreignKey consistent member refers
        exact absurd (Constraint.mem_columns_of_pairs pairs) (uncovered key declared)

end Registry

end Schemata
