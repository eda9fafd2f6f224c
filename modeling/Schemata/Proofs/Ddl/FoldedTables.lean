import Schemata.Proofs.Ddl.FoldedDefinitions
import Schemata.Proofs.Ddl.StatementCases

/-!
A table statement that is folded gives the same table but for the types of its columns and the expressions
of its checks, and as many errors and warnings.
-/

namespace Schemata

open Text

theorem updateFirst_map {α : Type} {fits : α → Bool} {change change' turn : α → α}
    (fit : ∀ a, fits (turn a) = fits a) (commutes : ∀ a, change' (turn a) = turn (change a)) (list : List α) :
    updateFirst fits change' (list.map turn) = (updateFirst fits change list).map turn := by
  induction list with
  | nil => rfl
  | cons a rest ih =>
      rw [List.map_cons, updateFirst, updateFirst, fit, commutes, ih]
      split <;> rfl

def Table.folded (table : Table) : Table :=
  { table with columns := table.columns.map Column.folded }

theorem Table.updateColumn_folded (table : Table) (name : Text) {change : Column → Column}
    (commutes : ∀ column : Column, change column.folded = (change column).folded) :
    table.folded.updateColumn name change = (table.updateColumn name change).folded := by
  have fits : ∀ column : Column, column.folded.isNamed name = column.isNamed name := fun _ => rfl
  simp only [Table.updateColumn, Table.folded, updateFirst_map fits commutes]

namespace TableMetadata

def folded (metadata : TableMetadata) : TableMetadata :=
  { metadata with
    table := metadata.table.folded
    constraints := metadata.constraints.map Constraint.folded }

@[simp] theorem folded_name (metadata : TableMetadata) : metadata.folded.name = metadata.name := rfl

theorem foreignKeys_folded (metadata : TableMetadata) :
    metadata.folded.foreignKeys = metadata.foreignKeys.map Constraint.folded :=
  List.filter_map ..

theorem primaryKey?_folded (metadata : TableMetadata) :
    metadata.folded.primaryKey? = metadata.primaryKey?.map Constraint.folded :=
  List.find?_map ..

theorem primaryKeyColumns_folded (metadata : TableMetadata) :
    metadata.folded.primaryKeyColumns = metadata.primaryKeyColumns := by
  rw [primaryKeyColumns, primaryKeyColumns, primaryKey?_folded, Option.map_map]
  rfl

theorem applyForeignKey_folded (table : Table) (foreignKey : Constraint) :
    applyForeignKey table.folded foreignKey.folded = (applyForeignKey table foreignKey).folded :=
  List.foldl_hom Table.folded fun table pair => table.updateColumn_folded pair.1 fun _ => rfl

/-- Showing constraints in the flags commutes with folding. -/
theorem applyConstraintFlags_folded (metadata : TableMetadata) :
    metadata.folded.applyConstraintFlags = metadata.applyConstraintFlags.folded := by
  have marked : ∀ columns : List Text,
      columns.foldl (fun table column => table.updateColumn column Column.markKey) metadata.table.folded =
        (columns.foldl (fun table column => table.updateColumn column Column.markKey) metadata.table).folded :=
    fun columns => List.foldl_hom Table.folded fun table column => table.updateColumn_folded column fun _ => rfl
  have referred : ∀ (table : Table) (keys : List Constraint),
      (keys.map Constraint.folded).foldl applyForeignKey table.folded =
        (keys.foldl applyForeignKey table).folded := by
    intro table keys
    rw [List.foldl_map]
    exact List.foldl_hom Table.folded applyForeignKey_folded
  rw [applyConstraintFlags, applyConstraintFlags, primaryKeyColumns_folded, foreignKeys_folded,
    show metadata.folded.table = metadata.table.folded from rfl, marked, referred]
  rfl

end TableMetadata

namespace Ddl

def Entry.folded : Entry → Entry
  | .column definition => .column definition.folded
  | .constraint read => .constraint read.folded
  | .index read => .index read
  | .rejected defect => .rejected defect.folded

theorem orElseDefect_folded {α : Type} {change : α → α} {recover : Defect → α}
    (recovers : ∀ defect : Defect, recover defect.folded = change (recover defect)) (result : Except Fault α) :
    orElseDefect (foldedResult Fault.folded change result) recover =
      foldedResult Fault.folded change (orElseDefect result recover) := by
  cases result with
  | ok a => rfl
  | error fault =>
      cases fault with
      | defect d => simp [Fault.folded, orElseDefect, recovers]
      | unsupported => rfl
      | breakdown message => rfl

theorem indexDefinition_folded (definition : Text) : Dialect.standard.indexDefinition (folded definition) =
    foldedResult Fault.folded id (Dialect.standard.indexDefinition definition) := by
  simp only [Dialect.standard, Dialect.withClassifiers, readIndexDefinition_folded, ofDefect_folded]

theorem column_folded (definition : Text) : Dialect.standard.column (folded definition) =
    foldedResult Fault.folded ColumnDefinition.folded (Dialect.standard.column definition) := by
  simp only [Dialect.standard, Dialect.withClassifiers, readColumn_folded, ofDefect_folded]

theorem standard_classifyDefinition (definition : Text) :
    Dialect.standard.classifyDefinition definition = pure (classifyDefinition definition) := by
  simp only [Dialect.standard, Dialect.withClassifiers]

theorem readEntry_folded (definition : Text) :
    readEntry Dialect.standard (folded definition) =
      foldedResult Fault.folded Entry.folded (readEntry Dialect.standard definition) := by
  have recovers : ∀ defect : Defect, Entry.rejected defect.folded = (Entry.rejected defect).folded :=
    fun _ => rfl
  rw [readEntry, readEntry, ← orElseDefect_folded recovers, standard_classifyDefinition,
    standard_classifyDefinition, classifyDefinition_folded, pure_bind, pure_bind]
  refine congrArg (orElseDefect · Entry.rejected) ?_
  have constraint : (Dialect.standard.constraint (folded definition) >>= fun read => pure (Entry.constraint read)) =
      foldedResult Fault.folded Entry.folded
        (Dialect.standard.constraint definition >>= fun read => pure (Entry.constraint read)) := by
    rw [readConstraint_folded]
    exact foldedResult_bind fun _ => rfl
  cases classifyDefinition definition with
  | index =>
      rw [indexDefinition_folded]
      exact foldedResult_bind fun _ => rfl
  | column =>
      rw [column_folded]
      exact foldedResult_bind fun _ => rfl
  | _ => exact constraint

theorem collect_folded {α β : Type} {read : α → Except Fault β} {turn : α → α} {change : β → β}
    (reads : ∀ a, read (turn a) = foldedResult Fault.folded change (read a)) (list : List α) :
    collect read (list.map turn) =
      ((collect read list).1.map change, (collect read list).2.map Fault.folded) := by
  induction list with
  | nil => rfl
  | cons a rest ih =>
      rw [List.map_cons, collect, collect, reads]
      cases read a with
      | error fault => rfl
      | ok b => simp [ih]

namespace Draft

def folded (draft : Draft) : Draft :=
  { draft with
    columns := draft.columns.map Column.folded
    constraints := draft.constraints.map Constraint.folded
    defects := draft.defects.map Defect.folded }

theorem inlineConstraints_folded (column : ColumnDefinition) :
    inlineConstraints column.folded = (inlineConstraints column).map Constraint.folded := by
  obtain ⟨name, dataType, notNull, primaryKey, unique, references, check⟩ := column
  cases unique <;> cases references <;> cases check <;> rfl

theorem add_folded (draft : Draft) (entry : Entry) : draft.folded.add entry.folded = (draft.add entry).folded := by
  cases entry with
  | column column =>
      have taken : (draft.folded.columns.any fun present => present.name == column.folded.name) =
          draft.columns.any fun present => present.name == column.name :=
        List.any_map ..
      simp only [Entry.folded, add, addColumn, taken]
      split
      · simp [folded, Defect.folded, ColumnDefinition.folded]
      · rw [inlineConstraints_folded]
        simp only [folded, List.map_append]
        rfl
  | constraint constraint => simp [Entry.folded, add, folded]
  | index index => simp [Entry.folded, add, folded]
  | rejected defect => simp [Entry.folded, add, folded]

theorem ofEntries_folded (entries : List Entry) :
    ofEntries (entries.map Entry.folded) = (ofEntries entries).folded := by
  have added : ∀ draft : Draft, entries.foldl (fun draft entry => draft.add entry.folded) draft.folded =
      (entries.foldl add draft).folded := fun draft => List.foldl_hom folded add_folded
  rw [ofEntries, List.foldl_map]
  exact added {}

theorem declaredKeys_folded (draft : Draft) :
    draft.folded.declaredKeys = draft.declaredKeys.map Constraint.folded :=
  List.filter_map ..

theorem otherConstraints_folded (draft : Draft) :
    draft.folded.otherConstraints = draft.otherConstraints.map Constraint.folded :=
  List.filter_map ..

theorem hasSeveralKeys_folded (draft : Draft) : draft.folded.hasSeveralKeys = draft.hasSeveralKeys := by
  rw [hasSeveralKeys, hasSeveralKeys, declaredKeys_folded, List.length_map]
  rfl

theorem mergedKey_folded (draft : Draft) : draft.folded.mergedKey = draft.mergedKey.folded := by
  simp only [mergedKey, Constraint.folded, declaredKeys_folded, List.flatMap_map, List.findSome?_map]
  rfl

theorem metadata_folded (draft : Draft) (table : Text) :
    draft.folded.metadata table = (draft.metadata table).folded := by
  have constraints : draft.folded.mergedConstraints = draft.mergedConstraints.map Constraint.folded := by
    rw [mergedConstraints, mergedConstraints, declaredKeys_folded, List.isEmpty_map, otherConstraints_folded,
      mergedKey_folded]
    rw [show draft.folded.inlineKey = draft.inlineKey from rfl]
    cases draft.inlineKey.isEmpty && draft.declaredKeys.isEmpty <;> rfl
  rw [metadata, metadata, ← TableMetadata.applyConstraintFlags_folded, constraints]
  rfl

end Draft

/-! ### Statements -/

theorem readCreateTable_folded (statement : Text) :
    readCreateTable (folded statement) =
      foldedResult Defect.folded (fun (table, body) => (table, folded body)) (readCreateTable statement) := by
  unfold readCreateTable
  rw [trim_folded, createTableHead_folds.first]
  cases createTableHead.first (trim statement) with
  | none => rfl
  | some way =>
      simp only [Option.map_some, Script.enclosed_folded]
      cases Script.enclosed way.2 with
      | none => rfl
      | some parts =>
          simp only [Option.map_some, normalizeIdentifier_folded]
          cases (normalizeIdentifier way.1).isEmpty <;> rfl

theorem readCreateIndex_folded (statement : Text) :
    readCreateIndex (folded statement) = foldedResult Defect.folded id (readCreateIndex statement) := by
  unfold readCreateIndex
  rw [trim_folded, createIndexHead_folds.first]
  cases createIndexHead.first (trim statement) with
  | none => rfl
  | some way =>
      simp only [Option.map_some, Script.enclosed_folded]
      cases Script.enclosed way.2 with
      | none => rfl
      | some parts =>
          have name : (way.1.folded.name).map normalizeIdentifier = way.1.name.map normalizeIdentifier := by
            rw [IndexHead.folded, Option.map_map]
            exact congrArg (Option.map · way.1.name) (funext normalizeIdentifier_folded)
          simp only [Option.map_some, trim_folded, columnList_folded, name]
          simp only [IndexHead.folded, normalizeIdentifier_folded]
          rfl

theorem createTable_folded (statement : Text) : Dialect.standard.createTable (folded statement) =
    foldedResult Fault.folded (fun (table, body) => (table, folded body))
      (Dialect.standard.createTable statement) := by
  simp only [Dialect.standard, Dialect.withClassifiers, readCreateTable_folded, ofDefect_folded]

theorem createIndex_folded (statement : Text) : Dialect.standard.createIndex (folded statement) =
    foldedResult Fault.folded id (Dialect.standard.createIndex statement) := by
  simp only [Dialect.standard, Dialect.withClassifiers, readCreateIndex_folded, ofDefect_folded]

theorem mapM_folded {ε α β : Type} {alter : ε → ε} {turn : α → α} {change : β → β} {read : α → Except ε β}
    (reads : ∀ a, read (turn a) = foldedResult alter change (read a)) (list : List α) :
    (list.map turn).mapM read = foldedResult alter (List.map change) (list.mapM read) := by
  induction list with
  | nil => rfl
  | cons a rest ih =>
      rw [List.map_cons, List.mapM_cons, List.mapM_cons, reads, ih]
      refine foldedResult_bind fun b => ?_
      exact foldedResult_bind fun _ => rfl

def TableChange.folded (change : TableChange) : TableChange :=
  { change with added := change.added.map Text.folded }

theorem readAlterTable_folded (statement : Text) :
    Dialect.standard.alterTable (folded statement) =
      foldedResult Fault.folded TableChange.folded (Dialect.standard.alterTable statement) := by
  have action : ∀ action, Dialect.readAction (fun definition => return classifyDefinition definition)
      (folded action) = foldedResult Fault.folded (Option.map folded)
        (Dialect.readAction (fun definition => return classifyDefinition definition) action) := by
    intro action
    unfold Dialect.readAction
    rw [addedPart_folded]
    cases addedPart action with
    | none => rfl
    | some part =>
        simp only [Option.map_some, classifyDefinition_folded, pure_bind, trim_folded]
        split <;> rfl
  have alter : Dialect.standard.alterTable =
      Dialect.readAlterTable fun definition => return classifyDefinition definition := rfl
  rw [alter]
  unfold Dialect.readAlterTable
  rw [trim_folded, alterTableHead_folds.first]
  cases alterTableHead.first (trim statement) with
  | none => rfl
  | some way =>
      simp only [Option.map_some, Script.items_folded, mapM_folded action, normalizeIdentifier_folded]
      refine foldedResult_bind fun added => ?_
      have kept : (added.map (Option.map folded)).filterMap id = (added.filterMap id).map folded := by
        rw [List.filterMap_map, List.map_filterMap]
        rfl
      rw [kept]
      rfl

namespace Reading

/-- Two readings that differ in nothing but what folding changes, and in the words of their messages. -/
structure Matches (one other : Reading) : Prop where
  index : other.index = one.index
  kind : other.kind = one.kind
  tableName : other.tableName = one.tableName
  metadata : other.metadata = one.metadata.map TableMetadata.folded
  constraints : other.constraints = one.constraints.map Constraint.folded
  indexDefinition : other.indexDefinition = one.indexDefinition
  accepted : other.accepted = one.accepted
  errors : other.errors.length = one.errors.length
  warnings : other.warnings.length = one.warnings.length

theorem Matches.fail {one other : Reading} (alike : one.Matches other) (fault fault' : Fault) :
    (one.fail fault).Matches (other.fail fault') :=
  { alike with
    accepted := rfl
    errors := by simp [Reading.fail, alike.errors] }

/-- The blank reading of a statement. -/
def IsUnread (reading : Reading) : Prop :=
  reading.metadata = none ∧ reading.constraints = []

theorem IsUnread.matches {reading : Reading} (unread : reading.IsUnread) : reading.Matches reading :=
  ⟨rfl, rfl, rfl, by rw [unread.1]; rfl, by rw [unread.2]; rfl, rfl, rfl, rfl, rfl⟩

theorem ofCreateTable_folded {reading : Reading} (unread : reading.IsUnread) (statement : Text) :
    (ofCreateTable Dialect.standard statement reading).Matches
      (ofCreateTable Dialect.standard (folded statement) reading) := by
  unfold ofCreateTable
  rw [createTable_folded]
  cases Dialect.standard.createTable statement with
  | error fault => exact unread.matches.fail ..
  | ok found =>
      obtain ⟨table, body⟩ := found
      simp only [foldedResult_ok, Script.items_folded, collect_folded readEntry_folded, Draft.ofEntries_folded,
        Draft.metadata_folded, Draft.hasSeveralKeys_folded]
      obtain ⟨entries, fault⟩ := collect (readEntry Dialect.standard) (Script.items body)
      generalize Draft.ofEntries entries = draft
      have columns : draft.folded.columns.isEmpty = draft.columns.isEmpty := List.isEmpty_map
      have defects : draft.folded.defects.length = draft.defects.length := List.length_map _
      have named : (reading.names table draft).Matches (reading.names table draft.folded) :=
        { unread.matches with
          tableName := rfl
          warnings := by simp only [names, List.length_map, defects] }
      cases fault with
      | some fault => exact named.fail ..
      | none =>
          simp only [Option.map_none, columns]
          split
          · exact named.fail ..
          · exact { named with
              metadata := rfl
              warnings := by simp only [List.length_append, List.length_map, defects] }

/-- What an added definition gives: a constraint, or the defect that it is warned of. -/
def readAdded (definition : Text) : Except Fault (Except Defect Constraint) :=
  orElseDefect ((Dialect.standard.constraint definition).map Except.ok) Except.error

theorem ofAlterTable_standard (statement : Text) (reading : Reading) :
    ofAlterTable Dialect.standard statement reading =
      match Dialect.standard.alterTable statement with
      | .error fault => reading.fail fault
      | .ok change =>
          match (collect readAdded change.added).2 with
          | some fault => (reading.adds change.table (collect readAdded change.added).1).fail fault
          | none => reading.adds change.table (collect readAdded change.added).1 := rfl

theorem readAdded_folded (definition : Text) : readAdded (folded definition) =
    foldedResult Fault.folded (foldedResult Defect.folded Constraint.folded) (readAdded definition) := by
  rw [readAdded, readAdded, readConstraint_folded]
  cases Dialect.standard.constraint definition with
  | ok constraint => rfl
  | error fault => cases fault <;> rfl

theorem adds_folded {reading : Reading} (unread : reading.IsUnread) (table : Text)
    (outcomes : List (Except Defect Constraint)) :
    (reading.adds table outcomes).Matches
      (reading.adds table (outcomes.map (foldedResult Defect.folded Constraint.folded))) :=
  { unread.matches with
    tableName := rfl
    constraints := by
      simp only [adds, List.filterMap_map, List.map_filterMap]
      refine congrArg (List.filterMap · outcomes) (funext fun outcome => ?_)
      cases outcome <;> rfl
    warnings := by
      simp only [adds, List.length_filterMap_eq_countP, List.countP_map]
      refine congrArg (List.countP · outcomes) (funext fun outcome => ?_)
      cases outcome <;> rfl }

theorem ofAlterTable_folded {reading : Reading} (unread : reading.IsUnread) (statement : Text) :
    (ofAlterTable Dialect.standard statement reading).Matches
      (ofAlterTable Dialect.standard (folded statement) reading) := by
  rw [ofAlterTable_standard, ofAlterTable_standard, readAlterTable_folded]
  cases Dialect.standard.alterTable statement with
  | error fault => exact unread.matches.fail ..
  | ok change =>
      have collected := collect_folded readAdded_folded change.added
      have added := adds_folded unread change.table (collect readAdded change.added).1
      simp only [foldedResult_ok, TableChange.folded, collected]
      cases (collect readAdded change.added).2 with
      | some fault => exact added.fail ..
      | none => exact added

theorem ofCreateIndex_folded {reading : Reading} (unread : reading.IsUnread) (statement : Text) :
    (ofCreateIndex Dialect.standard statement reading).Matches
      (ofCreateIndex Dialect.standard (folded statement) reading) := by
  unfold ofCreateIndex
  rw [createIndex_folded]
  cases Dialect.standard.createIndex statement with
  | error fault => exact unread.matches.fail ..
  | ok creation => exact { unread.matches with tableName := rfl, indexDefinition := rfl }

/-- Reading a statement commutes with folding, but for the words of messages. -/
theorem ofKind_folded (kind : StatementKind) (statement : Text) (index : Nat) :
    (ofKind Dialect.standard kind statement index).Matches
      (ofKind Dialect.standard kind (folded statement) index) := by
  have unread : IsUnread { index, kind } := ⟨rfl, rfl⟩
  cases kind with
  | createTable => exact ofCreateTable_folded unread statement
  | alterTable => exact ofAlterTable_folded unread statement
  | createIndex => exact ofCreateIndex_folded unread statement
  | other => exact unread.matches

end Reading

end Ddl

end Schemata
