import Schemata.Ddl.Reading

/-!
What becomes of a statement that is read. Nothing of it can be read, or its reading breaks off within it, or it
is read to its end. What holds of every reading is shown for these cases, so that only this module depends on
how a statement is read.
-/

namespace Schemata.Ddl.Reading

/-- A reading with the name of its table and the defects in its body. -/
def names (reading : Reading) (table : Text) (draft : Draft) : Reading :=
  { reading with
    tableName := some table
    warnings := draft.defects.map fun (defect : Defect) => aboutTable table defect.message }

/-- A reading with the table that its body makes. -/
def makes (reading : Reading) (table : Text) (draft : Draft) : Reading :=
  { reading.names table draft with
    metadata := some (draft.metadata table)
    warnings := (reading.names table draft).warnings ++
      (if draft.hasSeveralKeys then [aboutTable table severalKeys] else []) }

/-- The warning of a definition that cannot be read. -/
def warningOf (table : Text) : Except Defect Constraint → Option Text
  | .ok _ => none
  | .error defect => some (aboutTable table defect.message)

/-- A reading with the constraints that a change adds. -/
def adds (reading : Reading) (table : Text) (outcomes : List (Except Defect Constraint)) : Reading :=
  { reading with
    tableName := some table
    constraints := outcomes.filterMap Except.toOption
    warnings := outcomes.filterMap (warningOf table) }

/-- The reading arises from a statement of the kind. -/
inductive Arises (dialect : Dialect) (statement : Text) (index : Nat) : StatementKind → Reading → Prop
  | unreadTable {fault : Fault} (unread : dialect.createTable statement = .error fault) :
      Arises dialect statement index .createTable (fail { index, kind := .createTable } fault)
  | brokenTable {table body : Text} {entries : List Entry} {rest : Option Fault} {fault : Fault}
      (created : dialect.createTable statement = .ok (table, body))
      (collected : collect (readEntry dialect) (Script.items body) = (entries, rest))
      (broken : rest = some fault ∨
        rest = none ∧ (Draft.ofEntries entries).columns = [] ∧ fault = .defect (.noColumns table)) :
      Arises dialect statement index .createTable
        ((names { index, kind := .createTable } table (Draft.ofEntries entries)).fail fault)
  | table {table body : Text} {entries : List Entry} (created : dialect.createTable statement = .ok (table, body))
      (collected : collect (readEntry dialect) (Script.items body) = (entries, none))
      (filled : (Draft.ofEntries entries).columns ≠ []) :
      Arises dialect statement index .createTable
        (makes { index, kind := .createTable } table (Draft.ofEntries entries))
  | unreadChange {fault : Fault} (unread : dialect.alterTable statement = .error fault) :
      Arises dialect statement index .alterTable (fail { index, kind := .alterTable } fault)
  | brokenChange {change : TableChange} {outcomes : List (Except Defect Constraint)} {fault : Fault}
      (changed : dialect.alterTable statement = .ok change)
      (collected : collect (fun definition =>
        orElseDefect ((dialect.constraint definition).map Except.ok) Except.error) change.added = (outcomes, some fault)) :
      Arises dialect statement index .alterTable
        ((adds { index, kind := .alterTable } change.table outcomes).fail fault)
  | change {change : TableChange} {outcomes : List (Except Defect Constraint)}
      (changed : dialect.alterTable statement = .ok change)
      (collected : collect (fun definition =>
        orElseDefect ((dialect.constraint definition).map Except.ok) Except.error) change.added = (outcomes, none)) :
      Arises dialect statement index .alterTable (adds { index, kind := .alterTable } change.table outcomes)
  | unreadIndex {fault : Fault} (unread : dialect.createIndex statement = .error fault) :
      Arises dialect statement index .createIndex (fail { index, kind := .createIndex } fault)
  | index {creation : IndexCreation} (created : dialect.createIndex statement = .ok creation) :
      Arises dialect statement index .createIndex
        { index, kind := .createIndex, tableName := some creation.table, indexDefinition := some creation.index }
  | other : Arises dialect statement index .other { index, kind := .other }

variable {dialect : Dialect} {kind : StatementKind} {statement : Text} {index : Nat} {reading : Reading}

theorem arises_ofCreateTable : Arises dialect statement index .createTable
    (ofCreateTable dialect statement { index, kind := .createTable }) := by
  unfold ofCreateTable
  cases created : dialect.createTable statement with
  | error fault => exact .unreadTable created
  | ok found =>
      obtain ⟨table, body⟩ := found
      dsimp only
      cases collected : collect (readEntry dialect) (Script.items body) with
      | mk entries rest =>
      cases rest with
      | some fault => exact .brokenTable created collected (.inl rfl)
      | none =>
          dsimp only
          split
          · rename_i empty
            exact .brokenTable created collected (.inr ⟨rfl, List.isEmpty_iff.mp empty, rfl⟩)
          · rename_i filled
            exact .table created collected (mt List.isEmpty_iff.mpr filled)

theorem arises_ofAlterTable : Arises dialect statement index .alterTable
    (ofAlterTable dialect statement { index, kind := .alterTable }) := by
  unfold ofAlterTable
  cases changed : dialect.alterTable statement with
  | error fault => exact .unreadChange changed
  | ok change =>
      dsimp only
      cases collected : collect _ change.added with
      | mk outcomes rest =>
      cases rest with
      | some fault => exact .brokenChange changed collected
      | none => exact .change changed collected

theorem arises_ofCreateIndex : Arises dialect statement index .createIndex
    (ofCreateIndex dialect statement { index, kind := .createIndex }) := by
  unfold ofCreateIndex
  cases created : dialect.createIndex statement with
  | error fault => exact .unreadIndex created
  | ok creation => exact .index created

theorem arises_ofKind (dialect : Dialect) (kind : StatementKind) (statement : Text) (index : Nat) :
    Arises dialect statement index kind (ofKind dialect kind statement index) := by
  cases kind with
  | createTable => exact arises_ofCreateTable
  | alterTable => exact arises_ofAlterTable
  | createIndex => exact arises_ofCreateIndex
  | other => exact .other

namespace Arises

theorem kind_eq (arises : Arises dialect statement index kind reading) : reading.kind = kind := by
  cases arises <;> rfl

/-- A table statement is accepted exactly if it gives a table, and then its body has been read to the end. -/
theorem exists_table (arises : Arises dialect statement index kind reading)
    (whole : reading.metadata ≠ none ∨ kind = .createTable ∧ reading.accepted = true) :
    ∃ table body entries, kind = .createTable ∧ dialect.createTable statement = .ok (table, body) ∧
      collect (readEntry dialect) (Script.items body) = (entries, none) ∧
      reading = makes { index, kind := .createTable } table (Draft.ofEntries entries) := by
  cases arises with
  | table created collected => exact ⟨_, _, _, rfl, created, collected, rfl⟩
  | unreadTable | brokenTable =>
      rcases whole with given | ⟨_, accepted⟩
      · exact absurd rfl given
      · cases accepted
  | unreadChange | brokenChange | change | unreadIndex | index | other =>
      rcases whole with given | ⟨isTable, _⟩
      · exact absurd rfl given
      · cases isTable

end Arises

end Schemata.Ddl.Reading
