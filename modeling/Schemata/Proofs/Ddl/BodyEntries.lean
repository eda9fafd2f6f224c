import Schemata.Proofs.Ddl.LongerBody
import Schemata.Proofs.Pipeline.Changes

/-!
What becomes of the definitions in a body. Each of them gives a column, a constraint, an index or a warning,
and the table and the warnings about it are made of what they give, in the order of the text. Only the
primary key is put together from more than one place.
-/

namespace Schemata

theorem map_updateFirst {α β : Type} {fits : α → Bool} {change : α → α} {f : α → β}
    (keeps : ∀ a, f (change a) = f a) (list : List α) : (updateFirst fits change list).map f = list.map f := by
  induction list with
  | nil => rfl
  | cons a rest ih =>
      unfold updateFirst
      split
      · rw [List.map_cons, List.map_cons, keeps]
      · rw [List.map_cons, List.map_cons, ih]

/-- What no change to a column concerns is left as it is by a series of changes. -/
theorem Table.map_foldl_updateColumn {α β : Type} {f : Column → β} (name : α → Text) (change : α → Column → Column)
    (keeps : ∀ step column, f (change step column) = f column) (steps : List α) (table : Table) :
    (steps.foldl (fun table step => table.updateColumn (name step) (change step)) table).columns.map f =
      table.columns.map f := by
  induction steps generalizing table with
  | nil => rfl
  | cons step rest ih => exact (ih _).trans (map_updateFirst (keeps step) table.columns)

/-- Setting the flags of columns leaves all else about them as it is. -/
theorem TableMetadata.map_applyConstraintFlags {β : Type} {f : Column → β}
    (keeps : ∀ column marked reference, f { column with primaryKey := marked, foreignKey := reference } = f column)
    (metadata : TableMetadata) : metadata.applyConstraintFlags.table.columns.map f = metadata.table.columns.map f := by
  unfold applyConstraintFlags
  dsimp only
  rw [foldl_applyForeignKey, Table.map_foldl_updateColumn Prod.fst (fun entry => Column.refer entry.2)
    fun _ column => keeps column column.primaryKey _]
  exact Table.map_foldl_updateColumn id (fun _ => Column.markKey) (fun _ column => keeps column true column.foreignKey) _ _

namespace Ddl

variable {dialect : Dialect} {names definitions : List Text} {entries read : List Entry} {entry : Entry}
  {statement definition : Text} {index : Nat} {reading : Reading}

/-! ### Judgements -/

/-- A recogniser of the dialect finds the defect in the definition. -/
inductive Dialect.Refuses (dialect : Dialect) (definition : Text) (defect : Defect) : Prop
  | kind (failed : dialect.classifyDefinition definition = .error (.defect defect))
  | column (kind : dialect.classifyDefinition definition = .ok .column)
      (failed : dialect.column definition = .error (.defect defect))
  | index (kind : dialect.classifyDefinition definition = .ok .index)
      (failed : dialect.indexDefinition definition = .error (.defect defect))
  | constraint {kind : DefinitionKind} (isKind : dialect.classifyDefinition definition = .ok kind)
      (other : kind ≠ .column ∧ kind ≠ .index) (failed : dialect.constraint definition = .error (.defect defect))

/-- What a definition is read as. -/
inductive Dialect.Reads (dialect : Dialect) (definition : Text) : Entry → Prop
  | column {column : ColumnDefinition} (kind : dialect.classifyDefinition definition = .ok .column)
      (read : dialect.column definition = .ok column) : Reads dialect definition (.column column)
  | index {index : IndexDefinition} (kind : dialect.classifyDefinition definition = .ok .index)
      (read : dialect.indexDefinition definition = .ok index) : Reads dialect definition (.index index)
  | constraint {kind : DefinitionKind} {constraint : Constraint}
      (isKind : dialect.classifyDefinition definition = .ok kind) (other : kind ≠ .column ∧ kind ≠ .index)
      (read : dialect.constraint definition = .ok constraint) : Reads dialect definition (.constraint constraint)
  | rejected {defect : Defect} (refuses : dialect.Refuses definition defect) : Reads dialect definition (.rejected defect)

/-- What becomes of definitions, one by one and in their order, behind columns of these names. -/
inductive Become (dialect : Dialect) : List Text → List Text → List Entry → Prop
  | nil {names : List Text} : Become dialect names [] []
  | column {names rest : List Text} {definition : Text} {column : ColumnDefinition} {entries : List Entry}
      (reads : dialect.Reads definition (.column column)) (fresh : column.name ∉ names)
      (further : Become dialect (names ++ [column.name]) rest entries) :
      Become dialect names (definition :: rest) (.column column :: entries)
  | repeated {names rest : List Text} {definition : Text} {column : ColumnDefinition} {entries : List Entry}
      (reads : dialect.Reads definition (.column column)) (taken : column.name ∈ names)
      (further : Become dialect names rest entries) :
      Become dialect names (definition :: rest) (.rejected (.duplicateColumn column.name) :: entries)
  | other {names rest : List Text} {definition : Text} {entry : Entry} {entries : List Entry}
      (reads : dialect.Reads definition entry) (other : ∀ column, entry ≠ .column column)
      (further : Become dialect names rest entries) : Become dialect names (definition :: rest) (entry :: entries)

/-! ### Readings of single definitions -/

/-- A value is entered, and a defect is kept instead of one. -/
def entered {α : Type} (enter : α → Entry) (result : Except Fault α) : Except Fault Entry :=
  orElseDefect (result >>= fun a => pure (enter a)) .rejected

theorem entered_eq_ok {α : Type} {enter : α → Entry} {result : Except Fault α} : entered enter result = .ok entry ↔
    (∃ a, result = .ok a ∧ enter a = entry) ∨ ∃ defect, result = .error (.defect defect) ∧ .rejected defect = entry := by
  cases result with
  | ok a => simp [entered, orElseDefect, bind, Except.bind, pure, Except.pure]
  | error fault => cases fault <;> simp [entered, orElseDefect, bind, Except.bind]

theorem readEntry_column (kind : dialect.classifyDefinition definition = .ok .column) :
    readEntry dialect definition = entered .column (dialect.column definition) := by
  rw [readEntry, kind]
  rfl

theorem readEntry_index (kind : dialect.classifyDefinition definition = .ok .index) :
    readEntry dialect definition = entered .index (dialect.indexDefinition definition) := by
  rw [readEntry, kind]
  rfl

theorem readEntry_constraint {kind : DefinitionKind} (isKind : dialect.classifyDefinition definition = .ok kind)
    (other : kind ≠ .column ∧ kind ≠ .index) :
    readEntry dialect definition = entered .constraint (dialect.constraint definition) := by
  rw [readEntry, isKind]
  cases kind with
  | column => exact absurd rfl other.1
  | index => exact absurd rfl other.2
  | _ => rfl

namespace Dialect

theorem readEntry_eq_ok_of_reads (reads : dialect.Reads definition entry) : readEntry dialect definition = .ok entry := by
  cases reads with
  | column kind read => exact readEntry_column kind ▸ entered_eq_ok.mpr (.inl ⟨_, read, rfl⟩)
  | index kind read => exact readEntry_index kind ▸ entered_eq_ok.mpr (.inl ⟨_, read, rfl⟩)
  | constraint isKind other read => exact readEntry_constraint isKind other ▸ entered_eq_ok.mpr (.inl ⟨_, read, rfl⟩)
  | rejected refuses =>
      cases refuses with
      | kind failed =>
          rw [readEntry, failed]
          rfl
      | column kind failed => exact readEntry_column kind ▸ entered_eq_ok.mpr (.inr ⟨_, failed, rfl⟩)
      | index kind failed => exact readEntry_index kind ▸ entered_eq_ok.mpr (.inr ⟨_, failed, rfl⟩)
      | constraint isKind other failed =>
          exact readEntry_constraint isKind other ▸ entered_eq_ok.mpr (.inr ⟨_, failed, rfl⟩)

theorem reads_of_readEntry_eq_ok (read : readEntry dialect definition = .ok entry) : dialect.Reads definition entry := by
  cases classified : dialect.classifyDefinition definition with
  | error fault =>
      rw [readEntry, classified] at read
      cases fault with
      | defect defect =>
          obtain rfl : .rejected defect = entry := Except.ok.inj read
          exact .rejected (.kind classified)
      | _ => cases read
  | ok kind =>
      by_cases isColumn : kind = .column
      · subst isColumn
        rw [readEntry_column classified, entered_eq_ok] at read
        obtain ⟨column, made, rfl⟩ | ⟨defect, failed, rfl⟩ := read
        · exact .column classified made
        · exact .rejected (.column classified failed)
      by_cases isIndex : kind = .index
      · subst isIndex
        rw [readEntry_index classified, entered_eq_ok] at read
        obtain ⟨index, made, rfl⟩ | ⟨defect, failed, rfl⟩ := read
        · exact .index classified made
        · exact .rejected (.index classified failed)
      · rw [readEntry_constraint classified ⟨isColumn, isIndex⟩, entered_eq_ok] at read
        obtain ⟨constraint, made, rfl⟩ | ⟨defect, failed, rfl⟩ := read
        · exact .constraint classified ⟨isColumn, isIndex⟩ made
        · exact .rejected (.constraint classified ⟨isColumn, isIndex⟩ failed)

theorem reads_iff : dialect.Reads definition entry ↔ readEntry dialect definition = .ok entry :=
  ⟨readEntry_eq_ok_of_reads, reads_of_readEntry_eq_ok⟩

end Dialect

/-! ### Outcomes -/

theorem collect_cons_eq {α β : Type} {read : α → Except Fault β} {a : α} {list : List α} {found : List β} :
    collect read (a :: list) = (found, none) ↔
      ∃ b others, read a = .ok b ∧ collect read list = (others, none) ∧ found = b :: others := by
  cases here : read a with
  | error fault => simp [collect, here]
  | ok b =>
      cases further : collect read list with
      | mk others fault => simp [collect, here, further, eq_comm, and_comm]

theorem length_of_collect {α β : Type} {read : α → Except Fault β} {list : List α} {found : List β}
    (collected : collect read list = (found, none)) : found.length = list.length := by
  induction list generalizing found with
  | nil =>
      obtain rfl : [] = found := (Prod.mk.inj collected).1
      rfl
  | cons a rest ih =>
      obtain ⟨b, others, _, further, rfl⟩ := collect_cons_eq.mp collected
      rw [List.length_cons, List.length_cons, ih further]

namespace Entry

/-- The entries as a table takes them after columns of these names: a column of a name that is taken is
rejected. -/
def settled (names : List Text) : List Entry → List Entry
  | [] => []
  | .column read :: rest =>
      if read.name ∈ names then .rejected (.duplicateColumn read.name) :: settled names rest
      else .column read :: settled (names ++ [read.name]) rest
  | entry :: rest => entry :: settled names rest

theorem settled_cons_of_other (other : ∀ column, entry ≠ .column column) (names : List Text) (rest : List Entry) :
    settled names (entry :: rest) = entry :: settled names rest := by
  cases entry with
  | column read => exact absurd rfl (other read)
  | _ => rfl

end Entry

/-- What becomes of definitions is what they are read as, once repeated columns are rejected. -/
theorem become_iff : Become dialect names definitions entries ↔
    ∃ read, collect (readEntry dialect) definitions = (read, none) ∧ entries = Entry.settled names read := by
  constructor
  · intro become
    induction become with
    | nil => exact ⟨[], rfl, rfl⟩
    | column reads fresh _ ih =>
        obtain ⟨read, collected, rfl⟩ := ih
        refine ⟨_, collect_cons_eq.mpr ⟨_, _, Dialect.reads_iff.mp reads, collected, rfl⟩, ?_⟩
        rw [Entry.settled, if_neg fresh]
    | repeated reads taken _ ih =>
        obtain ⟨read, collected, rfl⟩ := ih
        refine ⟨_, collect_cons_eq.mpr ⟨_, _, Dialect.reads_iff.mp reads, collected, rfl⟩, ?_⟩
        rw [Entry.settled, if_pos taken]
    | other reads other _ ih =>
        obtain ⟨read, collected, rfl⟩ := ih
        exact ⟨_, collect_cons_eq.mpr ⟨_, _, Dialect.reads_iff.mp reads, collected, rfl⟩,
          (Entry.settled_cons_of_other other ..).symm⟩
  · rintro ⟨read, collected, rfl⟩
    induction definitions generalizing names read with
    | nil =>
        obtain rfl : [] = read := (Prod.mk.inj collected).1
        exact .nil
    | cons definition rest ih =>
        obtain ⟨entry, others, here, further, rfl⟩ := collect_cons_eq.mp collected
        have reads := Dialect.reads_iff.mpr here
        by_cases isColumn : ∃ column, entry = .column column
        · obtain ⟨column, rfl⟩ := isColumn
          rw [Entry.settled]
          split
          · rename_i taken
            exact .repeated reads taken (ih others further)
          · rename_i fresh
            exact .column reads fresh (ih others further)
        · have other : ∀ column, entry ≠ .column column := fun column same => isColumn ⟨column, same⟩
          rw [Entry.settled_cons_of_other other]
          exact .other reads other (ih others further)

/-! ### The parts of a table -/

/-- The column that a definition declares, with the flags that it sets itself. -/
def ColumnDefinition.column (read : ColumnDefinition) : Column where
  name := read.name
  dataType := read.dataType
  nullable := !read.notNull
  primaryKey := read.primaryKey

namespace Entry

def columns : Entry → List ColumnDefinition
  | .column read => [read]
  | _ => []

/-- The constraints of an entry, those that a column writes inline among them. -/
def constraints : Entry → List Constraint
  | .column read => inlineConstraints read
  | .constraint read => [read]
  | _ => []

/-- The constraint that stands on its own. -/
def tableConstraints : Entry → List Constraint
  | .constraint read => [read]
  | _ => []

def indexes : Entry → List IndexDefinition
  | .index read => [read]
  | _ => []

def defects : Entry → List Defect
  | .rejected defect => [defect]
  | _ => []

/-- Each entry is one thing. -/
theorem length_eq_sum (entries : List Entry) : entries.length =
    (entries.flatMap columns).length + (entries.flatMap tableConstraints).length + (entries.flatMap indexes).length +
      (entries.flatMap defects).length := by
  induction entries with
  | nil => rfl
  | cons entry rest ih =>
      cases entry
      all_goals
        simp only [List.flatMap_cons, List.length_cons, List.length_append, columns, tableConstraints, indexes, defects, ih,
          List.length_nil]
        omega

theorem length_settled (names : List Text) (entries : List Entry) : (settled names entries).length = entries.length := by
  induction entries generalizing names with
  | nil => rfl
  | cons entry rest ih =>
      by_cases isColumn : ∃ column, entry = .column column
      · obtain ⟨column, rfl⟩ := isColumn
        rw [settled]
        split <;> simp [ih]
      · rw [settled_cons_of_other fun column same => isColumn ⟨column, same⟩]
        simp [ih]

/-- The columns that are declared with a mark of the primary key. -/
def inlineKey (entries : List Entry) : List Text :=
  ((entries.flatMap columns).filter ColumnDefinition.primaryKey).map ColumnDefinition.name

def declaredKeys (entries : List Entry) : List Constraint :=
  (entries.flatMap tableConstraints).filter fun constraint => constraint.kind == .primaryKey

end Entry

namespace Draft

/-- The parts of a draft are those of the entries, put one behind the other. -/
theorem foldl_add (entries : List Entry) (draft : Draft) :
    let settled := Entry.settled (draft.columns.map Column.name) entries
    entries.foldl add draft = {
      columns := draft.columns ++ (settled.flatMap Entry.columns).map ColumnDefinition.column
      constraints := draft.constraints ++ settled.flatMap Entry.constraints
      indexes := draft.indexes ++ settled.flatMap Entry.indexes
      inlineKey := draft.inlineKey ++ Entry.inlineKey settled
      defects := draft.defects ++ settled.flatMap Entry.defects } := by
  dsimp only
  induction entries generalizing draft with
  | nil => simp [Entry.settled, Entry.inlineKey]
  | cons entry rest ih =>
      rw [List.foldl_cons, ih]
      cases entry with
      | column read =>
          have seen : (draft.columns.any fun present => present.name == read.name) = true ↔
              read.name ∈ draft.columns.map Column.name := by simp
          rw [Entry.settled, add, addColumn]
          by_cases taken : read.name ∈ draft.columns.map Column.name
          · rw [if_pos taken, if_pos (seen.mpr taken)]
            simp [Entry.columns, Entry.constraints, Entry.indexes, Entry.inlineKey, Entry.defects]
          · rw [if_neg taken, if_neg (mt seen.mp taken)]
            cases marked : read.primaryKey <;>
              simp [Entry.columns, Entry.constraints, Entry.indexes, Entry.inlineKey, Entry.defects,
                ColumnDefinition.column, marked]
      | constraint read =>
          simp [add, Entry.settled, Entry.columns, Entry.constraints, Entry.indexes, Entry.inlineKey, Entry.defects]
      | index read =>
          simp [add, Entry.settled, Entry.columns, Entry.constraints, Entry.indexes, Entry.inlineKey, Entry.defects]
      | rejected defect =>
          simp [add, Entry.settled, Entry.columns, Entry.constraints, Entry.indexes, Entry.inlineKey, Entry.defects]

theorem ofEntries_eq (entries : List Entry) :
    let settled := Entry.settled [] entries
    ofEntries entries = {
      columns := (settled.flatMap Entry.columns).map ColumnDefinition.column
      constraints := settled.flatMap Entry.constraints
      indexes := settled.flatMap Entry.indexes
      inlineKey := Entry.inlineKey settled
      defects := settled.flatMap Entry.defects } :=
  foldl_add entries {}

end Draft

namespace Entry

theorem settled_columns_nodup (names : List Text) (entries : List Entry) (nodup : names.Nodup) :
    (names ++ ((settled names entries).flatMap columns).map ColumnDefinition.name).Nodup := by
  induction entries generalizing names with
  | nil => simpa [settled] using nodup
  | cons entry rest ih =>
      by_cases isColumn : ∃ column, entry = .column column
      · obtain ⟨column, rfl⟩ := isColumn
        rw [settled]
        split
        · exact ih names nodup
        · rename_i fresh
          have longer : (names ++ [column.name]).Nodup :=
            nodup.append (List.nodup_singleton _) (List.disjoint_singleton.mpr fresh)
          simpa [columns] using ih _ longer
      · rw [settled_cons_of_other fun column same => isColumn ⟨column, same⟩]
        have none' : columns entry = [] := by
          cases entry with
          | column read => exact absurd ⟨read, rfl⟩ isColumn
          | _ => rfl
        simpa [none'] using ih names nodup

/-- A column writes no primary key as a constraint of its own. -/
theorem filter_primaryKey_constraints (entries : List Entry) :
    ((entries.flatMap constraints).filter fun constraint => constraint.kind == .primaryKey) = declaredKeys entries := by
  have inline : ∀ read : ColumnDefinition,
      ((inlineConstraints read).filter fun constraint => constraint.kind == .primaryKey) = [] := by
    intro read
    rw [inlineConstraints, List.filter_append, List.filter_append]
    cases read.unique <;> cases read.references <;> cases read.check <;> rfl
  rw [declaredKeys, List.filter_flatMap, List.filter_flatMap]
  refine List.flatMap_congr fun entry _ => ?_
  cases entry with
  | column read => exact inline read
  | _ => rfl

end Entry

/-! ### Each name once -/

/-- The list has each element of the other one once, in the order in which they first occur there. -/
structure IsOnceEach (once all : List Text) : Prop where
  mem_iff : ∀ name, name ∈ once ↔ name ∈ all
  ordered : once.Pairwise fun name later => all.idxOf name < all.idxOf later

theorem Draft.isOnceEach_distinct (all : List Text) : IsOnceEach (distinct all) all where
  mem_iff _ := mem_distinct
  ordered := by
    induction all with
    | nil => exact .nil
    | cons first rest ih =>
        have later : ∀ {name : Text}, name ≠ first → (first :: rest).idxOf name = rest.idxOf name + 1 :=
          fun other => List.idxOf_cons_ne rest (Ne.symm other)
        rw [distinct]
        refine List.pairwise_cons.mpr ⟨fun name member => ?_, ?_⟩
        · have other : name ≠ first := by simpa using (List.mem_filter.mp member).2
          rw [List.idxOf_cons_self, later other]
          exact Nat.succ_pos _
        · refine (ih.filter _).imp_of_mem fun {name other} member member' before => ?_
          have apart : name ≠ first := by simpa using (List.mem_filter.mp member).2
          have apart' : other ≠ first := by simpa using (List.mem_filter.mp member').2
          rw [later apart, later apart']
          exact Nat.succ_lt_succ before

/-! ### Tables -/

namespace Entry

/-- The places in which a primary key is declared; all marks of columns are one place. -/
def keyPlaces (entries : List Entry) : Nat :=
  (declaredKeys entries).length + if (inlineKey entries).isEmpty then 0 else 1

/-- The columns of the primary key as they are declared: those that are marked, then those of the keys that
stand on their own. -/
def keyColumns (entries : List Entry) : List Text :=
  inlineKey entries ++ (declaredKeys entries).flatMap Constraint.columns

end Entry

/-- The table is made of the entries of its body. Its constraints are those of the entries, except that a
primary key for all that are declared stands at their head. -/
structure IsMadeOf (metadata : TableMetadata) (table : Text) (entries : List Entry) : Prop where
  name : metadata.name = table
  columns : metadata.table.columns.map (fun column => (column.name, column.dataType, column.nullable)) =
    (entries.flatMap Entry.columns).map fun read => (read.name, read.dataType, !read.notNull)
  distinct : (metadata.table.columns.map Column.name).Nodup
  indexes : metadata.indexes = entries.flatMap Entry.indexes
  constraints : ∃ key : Option Constraint, (key.isSome ↔ 0 < Entry.keyPlaces entries) ∧
    (∀ merged ∈ key, merged.kind = .primaryKey ∧ IsOnceEach merged.columns (Entry.keyColumns entries)) ∧
    metadata.constraints = key.toList ++
      (entries.flatMap Entry.constraints).filter fun constraint => constraint.kind != .primaryKey

/-- The warnings about the definitions of a body, and the one about a primary key in several places. -/
def Entry.warnings (table : Text) (entries : List Entry) : List Text :=
  (entries.flatMap Entry.defects).map (fun (defect : Defect) => Reading.aboutTable table defect.message) ++
    if 1 < keyPlaces entries then [Reading.aboutTable table Reading.severalKeys] else []

theorem Entry.length_warnings (table : Text) (entries : List Entry) : (warnings table entries).length =
    (entries.flatMap defects).length + if 1 < keyPlaces entries then 1 else 0 := by
  rw [warnings, List.length_append, List.length_map]
  split <;> rfl

section Settled

variable (read : List Entry)

theorem Draft.declaredKeys_ofEntries : (ofEntries read).declaredKeys = Entry.declaredKeys (Entry.settled [] read) := by
  rw [ofEntries_eq, declaredKeys, Entry.filter_primaryKey_constraints]

theorem Draft.hasSeveralKeys_ofEntries :
    (ofEntries read).hasSeveralKeys = true ↔ 1 < Entry.keyPlaces (Entry.settled [] read) := by
  rw [hasSeveralKeys, declaredKeys_ofEntries, ofEntries_eq, decide_eq_true_iff]
  rfl

theorem Draft.mergedConstraints_ofEntries : ∃ key : Option Constraint,
    (key.isSome ↔ 0 < Entry.keyPlaces (Entry.settled [] read)) ∧
    (∀ merged ∈ key, merged.kind = .primaryKey ∧
      IsOnceEach merged.columns (Entry.keyColumns (Entry.settled [] read))) ∧
    (ofEntries read).mergedConstraints = key.toList ++
      ((Entry.settled [] read).flatMap Entry.constraints).filter fun constraint => constraint.kind != .primaryKey := by
  have declared := declaredKeys_ofEntries read
  have inline : (ofEntries read).inlineKey = Entry.inlineKey (Entry.settled [] read) := by rw [ofEntries_eq]
  have others : (ofEntries read).otherConstraints =
      ((Entry.settled [] read).flatMap Entry.constraints).filter fun constraint => constraint.kind != .primaryKey := by
    rw [otherConstraints, ofEntries_eq]
  have places : ((ofEntries read).inlineKey.isEmpty && (ofEntries read).declaredKeys.isEmpty) = true ↔
      ¬ 0 < Entry.keyPlaces (Entry.settled [] read) := by
    rw [inline, declared, Entry.keyPlaces]
    cases Entry.inlineKey (Entry.settled [] read) <;> simp
  rw [← others, mergedConstraints]
  split
  · rename_i none'
    exact ⟨none, by simpa using places.mp none', by simp, rfl⟩
  · rename_i some'
    refine ⟨some (ofEntries read).mergedKey, by simpa using not_not.mp (mt places.mpr some'), ?_, rfl⟩
    rintro merged same
    obtain rfl := Option.mem_some.mp same
    rw [mergedKey, inline, declared]
    exact ⟨rfl, isOnceEach_distinct _⟩

theorem Draft.isMadeOf_metadata (table : Text) :
    IsMadeOf ((ofEntries read).metadata table) table (Entry.settled [] read) where
  name := TableMetadata.applyConstraintFlags_name _
  columns := by
    refine (TableMetadata.map_applyConstraintFlags (fun _ _ _ => rfl) _).trans ?_
    rw [ofEntries_eq, List.map_map]
    rfl
  distinct := by
    refine (congrArg List.Nodup (TableMetadata.map_applyConstraintFlags (fun _ _ _ => rfl) _)).mpr ?_
    rw [ofEntries_eq, List.map_map]
    exact Entry.settled_columns_nodup [] read List.nodup_nil
  indexes := by
    rw [metadata, ofEntries_eq]
    rfl
  constraints := mergedConstraints_ofEntries read

end Settled

theorem Reading.makes_warnings (reading : Reading) (table : Text) (read : List Entry) :
    (reading.makes table (Draft.ofEntries read)).warnings = Entry.warnings table (Entry.settled [] read) := by
  rw [Entry.warnings, if_congr (Draft.hasSeveralKeys_ofEntries read).symm rfl rfl, makes, names, Draft.ofEntries_eq]

/-- Each definition in the body of an accepted table statement becomes one thing, and the table and the warnings
are made of what they become. -/
theorem read_createTable (reads : dialect.read statement index = .ok reading) (isTable : reading.kind = .createTable)
    (accepted : reading.accepted = true) : ∃ table body entries metadata,
      dialect.createTable statement = .ok (table, body) ∧
      (∀ other, Become dialect [] (Script.items body) other ↔ other = entries) ∧
      reading.tableName = some table ∧ reading.metadata = some metadata ∧ IsMadeOf metadata table entries ∧
      reading.warnings = Entry.warnings table entries ∧
      (Script.items body).length + (if 1 < Entry.keyPlaces entries then 1 else 0) =
        metadata.table.columns.length + (entries.flatMap Entry.tableConstraints).length + metadata.indexes.length +
          reading.warnings.length := by
  obtain ⟨kind, _, made⟩ := bind_eq_ok.mp reads
  have arises := Reading.arises_ofKind dialect kind statement index
  rw [show Reading.ofKind dialect kind statement index = reading from Except.ok.inj made] at arises
  have whole := arises.exists_table (.inr ⟨arises.kind_eq ▸ isTable, accepted⟩)
  obtain ⟨table, body, read, _, created, collected, rfl⟩ := whole
  have made := Draft.isMadeOf_metadata read table
  refine ⟨table, body, Entry.settled [] read, (Draft.ofEntries read).metadata table, created, fun other => ?_, ?_⟩
  · rw [become_iff, collected]
    simp
  · rw [Reading.makes_warnings]
    refine ⟨rfl, rfl, made, rfl, ?_⟩
    have items : (Script.items body).length = (Entry.settled [] read).length := by
      rw [Entry.length_settled, length_of_collect collected]
    have columns : ((Draft.ofEntries read).metadata table).table.columns.length =
        ((Entry.settled [] read).flatMap Entry.columns).length := by
      simpa only [List.length_map] using congrArg List.length made.columns
    rw [items, Entry.length_eq_sum, columns, made.indexes, Entry.length_warnings]
    omega

theorem read_createTable_crowded : ∃ reading entries metadata,
    Dialect.standard.read "CREATE TABLE t (a INT PRIMARY KEY, A INT, KEY k (a), b, PRIMARY KEY (c, a), c INT)".toList 0 =
        .ok reading ∧ reading.kind = .createTable ∧ reading.accepted = true ∧
      (∀ other, Become Dialect.standard [] ["a INT PRIMARY KEY".toList, "A INT".toList, "KEY k (a)".toList, "b".toList,
        "PRIMARY KEY (c, a)".toList, "c INT".toList] other ↔ other = entries) ∧
      reading.metadata = some metadata ∧ IsMadeOf metadata "t".toList entries ∧
      reading.warnings = Entry.warnings "t".toList entries ∧
      6 + (if 1 < Entry.keyPlaces entries then 1 else 0) = 2 + (entries.flatMap Entry.tableConstraints).length + 1 + 3 := by
  have created : (Dialect.standard.createTable
      "CREATE TABLE t (a INT PRIMARY KEY, A INT, KEY k (a), b, PRIMARY KEY (c, a), c INT)".toList).map
        (fun named => (named.1, Script.items named.2)) =
      .ok ("t".toList, ["a INT PRIMARY KEY".toList, "A INT".toList, "KEY k (a)".toList, "b".toList,
        "PRIMARY KEY (c, a)".toList, "c INT".toList]) := by decide +kernel
  have computed : (Dialect.standard.read
      "CREATE TABLE t (a INT PRIMARY KEY, A INT, KEY k (a), b, PRIMARY KEY (c, a), c INT)".toList 0).map
        (fun reading => (reading.kind, reading.accepted, reading.warnings.length,
          reading.metadata.map fun metadata => (metadata.table.columns.length, metadata.indexes.length))) =
      .ok (.createTable, true, 3, some (2, 1)) := by decide +kernel
  obtain ⟨reading, reads, counted⟩ := map_eq_ok.mp computed
  simp only [Prod.mk.injEq] at counted
  obtain ⟨kind, accepted, warned, sizes⟩ := counted
  obtain ⟨table, body, entries, metadata, named, becomes, _, given, made, warnings, count⟩ :=
    read_createTable reads kind accepted
  rw [named] at created
  obtain ⟨rfl, items⟩ := Prod.mk.inj (Except.ok.inj created)
  rw [given] at sizes
  obtain ⟨columns, indexes⟩ := Prod.mk.inj (Option.some.inj sizes)
  rw [items] at becomes count
  rw [columns, indexes, warned] at count
  exact ⟨reading, entries, metadata, reads, kind, accepted, becomes, given, made, warnings, count⟩

end Ddl

end Schemata
