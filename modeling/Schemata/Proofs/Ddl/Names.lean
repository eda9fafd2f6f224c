import Schemata.Ddl.TableBody
import Schemata.Proofs.Outcomes
import Schemata.Proofs.Text.Lower

/-!
The names that the readers give are in lower case, and every foreign key that is read has a table. What a
statement about a table is read as follows from its head and from what stands behind it.
-/

namespace Schemata

namespace Text

def InLowerCase (text : Text) : Prop :=
  lower text = text

theorem inLowerCase_lower (text : Text) : InLowerCase (lower text) :=
  lower_lower text

end Text

open Text (InLowerCase)

/-- The columns of a constraint are in lower case, and a foreign key has a table. -/
structure Constraint.IsNormal (constraint : Constraint) : Prop where
  columns : ∀ column ∈ constraint.columns, InLowerCase column
  target : constraint.kind = .foreignKey → ∃ table, constraint.referencedTable = some table

namespace Ddl

theorem normalizeIdentifier_inLowerCase (written : Text) : InLowerCase (normalizeIdentifier written) :=
  Text.inLowerCase_lower _

theorem inLowerCase_of_mem_columnList {list column : Text} (member : column ∈ columnList list) :
    InLowerCase column := by
  obtain ⟨item, _, named⟩ := List.mem_filterMap.mp member
  obtain ⟨_, _, rfl⟩ := Option.map_eq_some_iff.mp named
  exact normalizeIdentifier_inLowerCase _

theorem inLowerCase_of_columnsFrom {definition fromList : Text} {columns : List Text}
    (read : columnsFrom definition fromList = .ok columns) :
    ∀ column ∈ columns, InLowerCase column := by
  unfold columnsFrom at read
  split at read
  · cases read
  · cases read
    exact fun column member => inLowerCase_of_mem_columnList member

theorem readForeignKey_isNormal {definition fromList : Text} {constraint : Constraint}
    (read : readForeignKey definition fromList = .ok (some constraint)) : constraint.IsNormal := by
  unfold readForeignKey at read
  split at read
  · cases read
  · split at read
    · cases read
    · -- The referenced columns may be left out; the local ones and the table are always there.
      have complete : ∀ table list referenced, (pure (some {
          kind := .foreignKey, columns := columnList list,
          referencedTable := some table, referencedColumns := referenced }) :
          Except Defect (Option Constraint)) = .ok (some constraint) → constraint.IsNormal := by
        intro table list referenced made
        cases made
        exact ⟨fun column member => inLowerCase_of_mem_columnList member, fun _ => ⟨table, rfl⟩⟩
      dsimp only at read
      split at read
      · obtain ⟨referenced, _, made⟩ := bind_eq_ok.mp read
        exact complete _ _ referenced made
      · exact complete _ _ [] read

theorem isNormal_of_columnsFrom {definition fromList : Text} {kind : ConstraintKind}
    {constraint : Constraint} (other : kind ≠ .foreignKey)
    (read : (do return some { kind, columns := ← columnsFrom definition fromList } :
      Except Defect (Option Constraint)) = .ok (some constraint)) : constraint.IsNormal := by
  obtain ⟨columns, listed, made⟩ := bind_eq_ok.mp read
  cases made
  exact ⟨inLowerCase_of_columnsFrom listed, fun same => absurd same other⟩

theorem readConstraintOf_isNormal {kind : DefinitionKind} {text : Text} {constraint : Constraint}
    (read : readConstraintOf kind text = .ok (some constraint)) : constraint.IsNormal := by
  unfold readConstraintOf at read
  split at read
  · split at read
    · cases read
    · exact isNormal_of_columnsFrom (by decide) read
  · split at read
    · cases read
    · exact readForeignKey_isNormal read
  · split at read
    · cases read
    · exact isNormal_of_columnsFrom (by decide) read
  · split at read
    · cases read
    · obtain ⟨body, _, rfl⟩ := Option.map_eq_some_iff.mp (Except.ok.inj read)
      exact ⟨by simp, by simp⟩
  · cases read

theorem readColumn_inLowerCase {definition : Text} {column : ColumnDefinition}
    (read : readColumn definition = .ok column) : InLowerCase column.name := by
  unfold readColumn at read
  split at read
  · cases read
    exact normalizeIdentifier_inLowerCase _
  · cases read

/-! ### Statements -/

theorem readCreateTable_eq_ok {statement table body : Text} : readCreateTable statement = .ok (table, body) ↔
    ∃ written fromBody rest, createTableHead.first (Text.trim statement) = some (written, fromBody) ∧
      Script.enclosed fromBody = some (body, rest) ∧ normalizeIdentifier written ≠ [] ∧
      table = normalizeIdentifier written := by
  unfold readCreateTable
  constructor
  · intro read
    split at read
    · rename_i written fromBody head
      dsimp only at read
      split at read
      · rename_i inside rest enclosed
        split at read
        · cases read
        · rename_i named
          cases read
          exact ⟨written, fromBody, rest, head, enclosed, mt List.isEmpty_iff.mpr named, rfl⟩
      · cases read
    · cases read
  · rintro ⟨written, fromBody, rest, head, enclosed, named, rfl⟩
    rw [head]
    dsimp only
    rw [enclosed]
    dsimp only
    rw [if_neg (mt List.isEmpty_iff.mp named)]
    rfl

theorem readCreateIndex_eq_ok {statement : Text} {creation : IndexCreation} :
    readCreateIndex statement = .ok creation ↔
      ∃ head fromList list rest, createIndexHead.first (Text.trim statement) = some (head, fromList) ∧
        Script.enclosed fromList = some (list, rest) ∧
        creation = {
          table := normalizeIdentifier head.table
          index := {
            columns := columnList (Text.trim list)
            name := head.name.map normalizeIdentifier
            unique := head.unique } } := by
  unfold readCreateIndex
  constructor
  · intro read
    split at read
    · rename_i head fromList found
      split at read
      · rename_i list rest enclosed
        cases read
        exact ⟨head, fromList, list, rest, found, enclosed, rfl⟩
      · cases read
    · cases read
  · rintro ⟨head, fromList, list, rest, found, enclosed, rfl⟩
    rw [found]
    dsimp only
    rw [enclosed]
    rfl

theorem readAlterTable_eq_ok {classifyDefinition : Text → Except Fault DefinitionKind} {statement : Text}
    {change : TableChange} : Dialect.readAlterTable classifyDefinition statement = .ok change ↔
      ∃ written actions added, alterTableHead.first (Text.trim statement) = some (written, actions) ∧
        (Script.items actions).mapM (Dialect.readAction classifyDefinition) = .ok added ∧
        change = ⟨normalizeIdentifier written, added.filterMap id⟩ := by
  unfold Dialect.readAlterTable
  constructor
  · intro read
    split at read
    · rename_i written actions head
      obtain ⟨added, acted, made⟩ := bind_eq_ok.mp read
      exact ⟨written, actions, added, head, acted, (Except.ok.inj made).symm⟩
    · cases read
  · rintro ⟨written, actions, added, head, acted, rfl⟩
    rw [head]
    exact bind_eq_ok.mpr ⟨added, acted, rfl⟩

/-- The names that the recognisers of a dialect give are in lower case. -/
structure Dialect.IsNormal (dialect : Dialect) : Prop where
  table : ∀ {statement table body}, dialect.createTable statement = .ok (table, body) → InLowerCase table
  constraint : ∀ {definition constraint}, dialect.constraint definition = .ok constraint →
    constraint.IsNormal
  column : ∀ {definition column}, dialect.column definition = .ok column → InLowerCase column.name
  change : ∀ {statement change}, dialect.alterTable statement = .ok change → InLowerCase change.table
  creation : ∀ {statement creation}, dialect.createIndex statement = .ok creation →
    InLowerCase creation.table

theorem ofDefect_eq_ok {α : Type} {result : Except Defect α} {a : α} :
    Dialect.ofDefect result = .ok a ↔ result = .ok a := by
  cases result with
  | error defect =>
      constructor
      · intro same
        cases same
      · intro same
        cases same
  | ok b =>
      constructor
      · intro same
        cases same
        rfl
      · intro same
        cases same
        rfl

theorem readConstraint_isNormal {classifyDefinition : Text → Except Fault DefinitionKind}
    {definition : Text} {constraint : Constraint}
    (read : Dialect.readConstraint classifyDefinition definition = .ok constraint) :
    constraint.IsNormal := by
  unfold Dialect.readConstraint at read
  dsimp only at read
  obtain ⟨kind, _, read⟩ := bind_eq_ok.mp read
  obtain ⟨outcome, made, read⟩ := bind_eq_ok.mp read
  cases outcome with
  | none => cases read
  | some found =>
      have normal := readConstraintOf_isNormal (ofDefect_eq_ok.mp made)
      cases read
      exact ⟨normal.columns, normal.target⟩

theorem withClassifiers_isNormal (classify : Text → Except Fault StatementKind)
    (classifyDefinition : Text → Except Fault DefinitionKind) :
    (Dialect.withClassifiers classify classifyDefinition).IsNormal where
  table read := by
    obtain ⟨_, _, _, _, _, _, rfl⟩ := readCreateTable_eq_ok.mp (ofDefect_eq_ok.mp read)
    exact normalizeIdentifier_inLowerCase _
  constraint read := readConstraint_isNormal read
  column read := readColumn_inLowerCase (ofDefect_eq_ok.mp read)
  change read := by
    obtain ⟨_, _, _, _, _, rfl⟩ := readAlterTable_eq_ok.mp read
    exact normalizeIdentifier_inLowerCase _
  creation read := by
    obtain ⟨_, _, _, _, _, _, rfl⟩ := readCreateIndex_eq_ok.mp (ofDefect_eq_ok.mp read)
    exact normalizeIdentifier_inLowerCase _

end Ddl

end Schemata
