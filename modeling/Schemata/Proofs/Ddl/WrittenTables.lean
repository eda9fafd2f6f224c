import Schemata.Proofs.Ddl.WrittenColumns
import Schemata.Proofs.Schema.Flags
import Schemata.Proofs.Text.Lower

/-!
A written table is read as it is written: its columns with their types, and its constraints with one
primary key at their head.
-/

namespace Schemata.Ddl

open Text Script Reader

variable {text gap rest : Text}

/-! ### Entries -/

namespace WrittenEntry

theorem isItem (entry : WrittenEntry) : IsItem entry.tokens := by
  cases entry with
  | column written => exact written.isItem
  | constraint name written =>
      cases name with
      | none => exact written.isItem
      | some name =>
          have isWord : IsWord "CONSTRAINT".toList := by decide
          exact { isWord.isTidy.cons (name.isWord.isTidy.cons written.isItem.toIsTidy) with
            some' := List.cons_ne_nil _ _ }

theorem readEntry_eq (entry : WrittenEntry) (spelled : Spells entry.tokens text) :
    readEntry Dialect.standard text = .ok entry.read := by
  cases entry with
  | column written => exact written.readEntry_eq spelled
  | constraint name written =>
      cases name with
      | none => exact written.readEntry_unnamed spelled
      | some name => exact written.readEntry_named name spelled

end WrittenEntry

theorem collect_of_forall₂ {α β γ : Type} {spells : γ → α → Prop} {read : α → Except Fault β} {value : γ → β}
    (reads : ∀ c a, spells c a → read a = .ok (value c)) {written : List γ} {list : List α}
    (alike : List.Forall₂ spells written list) : collect read list = (written.map value, none) := by
  induction alike with
  | nil => rfl
  | cons head _ ih => simp only [collect, reads _ _ head, ih, List.map_cons]

/-! ### Heads of statements -/

theorem createTableKeywords_first (blank : ∀ c ∈ gap, isBlank c = true) (apart : gap ≠ []) (rest : Text) :
    createTableKeywords.first ("CREATE".toList ++ (gap ++ ("TABLE".toList ++ rest))) = some ((), rest) := by
  have isWord : IsWord "TABLE".toList := by decide
  refine first_bind (first_bind (first_keyword ..) (first_blanks1 blank apart (isWord.ends_append _))) ?_
  have unreplaced : (keywordsThenBlanks "OR".toList "REPLACE".toList).Refuses ("TABLE".toList ++ rest) := rfl
  have unscoped : (either (keywordThenBlanks "GLOBAL".toList) (keywordThenBlanks "LOCAL".toList)).Refuses
      ("TABLE".toList ++ rest) := rfl
  have lasting : temporary.Refuses ("TABLE".toList ++ rest) := rfl
  refine first_bind unreplaced.first_maybe (first_bind unscoped.first_maybe ?_)
  exact first_bind lasting.first_maybe (first_keyword ..)

/-- The words `IF NOT EXISTS` are not read in a name with a parenthesis behind it, be it called `IF`. -/
theorem refuses_ifNotExists (written : WrittenName) (blank : ∀ c ∈ gap, isBlank c = true)
    (apart : IsApart (gap ++ '(' :: rest)) : ifNotExists.Refuses (written.text ++ (gap ++ '(' :: rest)) := by
  have assoc : ifNotExists = keyword "IF".toList >>= fun _ => blanks1 >>= fun _ =>
      (do keywordThenBlanks "NOT".toList; keywordThenBlanks "EXISTS".toList) := bind_bind ..
  have unfollowed : ∀ left, Ends isWordChar left →
      (do keywordThenBlanks "NOT".toList; keywordThenBlanks "EXISTS".toList : Reader Unit).Refuses left := fun left ends =>
    (refuses_keyword (by decide) (by decide) ends).bind.bind
  rw [assoc]
  refine (keyword_readsWord (by decide)).refuses (fun _ => refuses_blanks1_in_word) written.isWord.wordly
    (wordEnds_of_isApart apart) fun _ => ?_
  exact refuses_blanks1_opening unfollowed blank rest

theorem WrittenName.name_ne_nil (written : WrittenName) : written.name ≠ [] := by
  obtain ⟨c, more, same⟩ := List.exists_cons_of_ne_nil written.isWord.some'
  rw [name, same, lower, lowerFrom, lowerAt]
  split
  · simp
  · split <;> simp

namespace WrittenTable

variable (table : WrittenTable)

theorem isTidy : IsTidy table.tokens := by
  have create : IsTidy ["CREATE".toList] := IsWord.isTidy (by decide)
  have kind : IsTidy ["TABLE".toList] := IsWord.isTidy (by decide)
  have body := isTidy_list (List.forall_mem_map.mpr fun entry (_ : entry ∈ table.entries) => entry.isItem.toIsTidy)
  exact create.cons (kind.cons (table.name.isWord.isTidy.cons body))

/-- The head of a written table up to its parenthesis, and the entries in it. -/
theorem exists_parts (spelled : Spells table.tokens text) :
    ∃ gap gap' gap'' more, text = "CREATE".toList ++ (gap ++ ("TABLE".toList ++ (gap' ++
        (table.name.text ++ (gap'' ++ '(' :: more))))) ∧
      (∀ c ∈ gap, isBlank c = true) ∧ gap ≠ [] ∧ (∀ c ∈ gap', isBlank c = true) ∧ gap' ≠ [] ∧
      (∀ c ∈ gap'', isBlank c = true) ∧ IsApart (gap'' ++ '(' :: more) ∧
      ∃ before body rest, enclosed ('(' :: more) = some (before ++ body, rest) ∧ (∀ c ∈ before, isBlank c = true) ∧
        Spells ([[',']].intercalate (table.entries.map WrittenEntry.tokens)) body := by
  obtain ⟨gap, gap', rest, rfl, blank, distinct, blank', further, _, distinct'⟩ :=
    exists_of_spells_words (by decide) (by decide) spelled
  have distinct' := distinct' ⟨_, rfl, table.name.isWord.not_mark⟩
  obtain ⟨gap'', rest, rfl, blank'', list, apart, _⟩ := further.uncons
  have apart := apart table.name.isWord.not_mark
  obtain ⟨before, behind, rfl, _⟩ := list.uncons
  have inner := isInner_intercalate
    (List.forall_mem_map.mpr fun entry (_ : entry ∈ table.entries) => entry.isItem.level)
  obtain ⟨before', body, _, _, closed, blank''', _, inside, _⟩ := list.enclosed inner
  exact ⟨gap, gap', gap'', _, rfl, blank, distinct, blank', distinct', blank'', apart, before', body, _, closed,
    blank''', inside⟩

theorem classify_eq (spelled : Spells table.tokens text) : classify text = .createTable := by
  obtain ⟨gap, gap', gap'', more, rfl, blank, distinct, blank', distinct', _⟩ := table.exists_parts spelled
  have left := (spelled.ends table.isTidy.solid).dropWhile_eq
  have ends := startsWithWord_eq_false_iff.mpr (wordEnds_of_isApart
    (isApart_gap blank' distinct' (table.name.text ++ (gap'' ++ '(' :: more))))
  have read : (do createTableKeywords; wordEnd : Reader Unit).first
      ("CREATE".toList ++ (gap ++ ("TABLE".toList ++ (gap' ++ (table.name.text ++ (gap'' ++ '(' :: more)))))) =
      some ((), gap' ++ (table.name.text ++ (gap'' ++ '(' :: more))) :=
    first_bind (createTableKeywords_first blank distinct _) (first_wordEnd ends)
  rw [classify, trimLeft, left, if_pos (accepts_of_first read)]

theorem readCreateTable_eq (spelled : Spells table.tokens text) :
    ∃ before body, readCreateTable text = .ok (table.name.name, before ++ body) ∧ (∀ c ∈ before, isBlank c = true) ∧
      Spells ([[',']].intercalate (table.entries.map WrittenEntry.tokens)) body := by
  obtain ⟨gap, gap', gap'', more, trimmed, blank, distinct, blank', distinct', blank'', apart, before, body, rest, closed,
    within, inside⟩ := table.exists_parts (spelled.trimmed table.isTidy.solid)
  refine ⟨before, body, ?_, within, inside⟩
  have alone : (trimLeft (gap'' ++ '(' :: more)).head? ≠ some '.' := by
    rw [trimLeft_append blank'' (ends_cons.mpr (by decide))]
    simp
  have read : createTableHead.first (trim text) = some (table.name.text, '(' :: more) := by
    rw [trimmed]
    refine first_bind (createTableKeywords_first blank distinct _) ?_
    refine first_bind (first_blanks1 blank' distinct' (table.name.isWord.ends_append _)) ?_
    refine first_bind (refuses_ifNotExists table.name blank'' apart).first_maybe ?_
    refine first_bind (first_captured (table.name.first_qualifiedName (nameEnds_of_isApart apart) alone)) ?_
    refine first_bind (first_blanks blank'' (ends_cons.mpr (by decide))) (first_bind (first_ahead ..) ?_)
    rw [Span.text_append]
    rfl
  have named : table.name.name.isEmpty = false := by
    simpa using table.name.name_ne_nil
  simp only [readCreateTable, read, closed, table.name.normalizeIdentifier_text, named]
  rfl

end WrittenTable

/-! ### Drafts -/

namespace Draft

theorem distinct_filter (accepted : Text → Bool) (list : List Text) :
    distinct (list.filter accepted) = (distinct list).filter accepted := by
  induction list with
  | nil => rfl
  | cons a rest ih =>
      cases kept : accepted a with
      | true =>
          rw [List.filter_cons_of_pos kept, distinct, distinct, List.filter_cons_of_pos kept, ih, List.filter_filter,
            List.filter_filter]
          simp only [Bool.and_comm]
      | false =>
          rw [List.filter_cons_of_neg (by simp [kept]), distinct, List.filter_cons_of_neg (by simp [kept]), ih,
            List.filter_filter]
          refine List.filter_congr fun b _ => ?_
          by_cases same : b = a
          · simp [same, kept]
          · simp [same]

theorem distinct_eq_eraseDups : ∀ list : List Text, distinct list = list.eraseDups
  | [] => rfl
  | a :: rest => by
      rw [distinct, ← distinct_filter, distinct_eq_eraseDups, List.eraseDups_cons]
      rfl
termination_by list => list.length
decreasing_by exact Nat.lt_succ_of_le (List.length_filter_le ..)

theorem inlineConstraints_definition (written : WrittenColumn) :
    inlineConstraints written.definition = written.constraints := by
  rw [inlineConstraints, WrittenColumn.constraints]
  cases references : written.references with
  | none => simp [WrittenColumn.definition, references]
  | some pair => simp [WrittenColumn.definition, references]

/-- Entries whose columns are new to the draft are added to it as they are written. -/
theorem foldl_add_read (entries : List WrittenEntry) (draft : Draft)
    (new : (draft.columns.map Column.name ++
      (entries.filterMap WrittenEntry.column?).map fun column => column.name.name).Nodup) :
    (entries.map WrittenEntry.read).foldl add draft =
      { draft with
        columns := draft.columns ++ (entries.filterMap WrittenEntry.column?).map WrittenColumn.column
        constraints := draft.constraints ++ entries.flatMap WrittenEntry.constraints
        inlineKey := draft.inlineKey ++
          ((entries.filterMap WrittenEntry.column?).filter WrittenColumn.primaryKey).map fun column =>
            column.name.name } := by
  induction entries generalizing draft with
  | nil => simp
  | cons entry rest ih =>
      cases entry with
      | constraint name written =>
          have columns : (WrittenEntry.constraint name written :: rest).filterMap WrittenEntry.column? =
              rest.filterMap WrittenEntry.column? := rfl
          rw [columns] at new ⊢
          simp only [List.map_cons, List.foldl_cons, WrittenEntry.read, add]
          rw [ih]
          · simp [WrittenEntry.constraints]
          · exact new
      | column written =>
          have columns : (WrittenEntry.column written :: rest).filterMap WrittenEntry.column? =
              written :: rest.filterMap WrittenEntry.column? := rfl
          rw [columns] at new ⊢
          have unused : (draft.columns.any fun present => present.name == written.definition.name) = false := by
            simp only [List.any_eq_false, beq_iff_eq]
            intro present member same
            exact (List.nodup_append.mp new).2.2 _ (List.mem_map_of_mem member) _ (List.mem_cons_self ..) same
          simp only [List.map_cons, List.foldl_cons, WrittenEntry.read, add, addColumn, unused]
          rw [if_neg Bool.false_ne_true, ih]
          · rw [inlineConstraints_definition, List.filter_cons]
            cases marked : written.primaryKey <;>
              simp [WrittenEntry.constraints, WrittenColumn.definition, WrittenColumn.column, marked]
          · simpa [WrittenColumn.definition] using new

end Draft

/-- No name of a constraint is empty. -/
theorem WrittenEntry.filter_name (entry : WrittenEntry) {constraint : Constraint}
    (member : constraint ∈ entry.constraints) :
    constraint.name.filter (fun name => !name.isEmpty) = constraint.name := by
  cases entry with
  | column written =>
      have unnamed : ∀ constraint ∈ written.constraints, constraint.name = none := by
        rw [WrittenColumn.constraints, List.forall_mem_append]
        constructor
        · split <;> simp
        · split <;> simp
      rw [unnamed constraint member, Option.filter_none]
  | constraint name written =>
      obtain rfl := List.mem_singleton.mp member
      have given : (written.declared name).name = name.map WrittenName.name := by
        cases written <;> rfl
      rw [given]
      cases name with
      | none => rfl
      | some name => simp [name.name_ne_nil]

namespace WrittenTable

variable (table : WrittenTable)

theorem ofEntries_eq : Draft.ofEntries (table.entries.map WrittenEntry.read) =
    { columns := table.columns.map WrittenColumn.column
      constraints := table.entries.flatMap WrittenEntry.constraints
      inlineKey := table.markedKey } :=
  Draft.foldl_add_read table.entries {} table.distinct

theorem declaredKeys_ofEntries :
    (Draft.ofEntries (table.entries.map WrittenEntry.read)).declaredKeys = table.declaredKeys := by
  rw [ofEntries_eq]
  rfl

theorem mergedConstraints_ofEntries :
    (Draft.ofEntries (table.entries.map WrittenEntry.read)).mergedConstraints = table.constraints := by
  have named : (table.declaredKeys.findSome? fun key => key.name.filter fun name => !name.isEmpty) =
      table.declaredKeys.findSome? Constraint.name := by
    rw [← List.head?_filterMap, ← List.head?_filterMap]
    refine congrArg List.head? (List.filterMap_congr fun key member => ?_)
    obtain ⟨entry, _, declared⟩ := List.mem_flatMap.mp (List.mem_of_mem_filter member)
    exact entry.filter_name declared
  rw [Draft.mergedConstraints, Draft.mergedKey, table.declaredKeys_ofEntries, named, Draft.distinct_eq_eraseDups,
    ofEntries_eq, constraints, keyColumns]
  split <;> rfl

theorem unflagged_distinct : table.unflagged.table.Distinct := by
  have names : (table.unflagged.table.columns.map fun column => lower column.name) =
      table.columns.map fun column => column.name.name := by
    rw [unflagged, List.map_map]
    exact List.map_congr_left fun column _ => lower_lower column.name.text
  rw [Table.Distinct, names]
  exact table.distinct

theorem metadata_ofEntries :
    (Draft.ofEntries (table.entries.map WrittenEntry.read)).metadata table.name.name =
      table.unflagged.applyConstraintFlags := by
  rw [Draft.metadata, table.mergedConstraints_ofEntries, ofEntries_eq]
  rfl

/-- What is read of a written table. -/
theorem ofKind_eq (spelled : Spells table.tokens text) (index : Nat) :
    Reading.ofKind Dialect.standard .createTable text index =
      { index
        kind := .createTable
        tableName := some table.name.name
        metadata := some table.unflagged.applyConstraintFlags
        warnings := table.warnings } := by
  obtain ⟨before, body, created, blank, inside⟩ := table.readCreateTable_eq spelled
  have whole : ∀ group ∈ table.entries.map WrittenEntry.tokens, IsItem group :=
    List.forall_mem_map.mpr fun entry _ => entry.isItem
  have alike := List.forall₂_map_left_iff.mp (inside.items whole blank)
  have read := collect_of_forall₂ (fun entry _ => entry.readEntry_eq) alike
  have created : Dialect.standard.createTable text = .ok (table.name.name, before ++ body) := by
    change Dialect.ofDefect (readCreateTable text) = _
    rw [created]
    rfl
  have filled : (Draft.ofEntries (table.entries.map WrittenEntry.read)).columns.isEmpty = false := by
    rw [ofEntries_eq, List.isEmpty_eq_false_iff]
    exact List.map_eq_nil_iff.not.mpr table.some'
  rw [Reading.ofKind, Reading.ofCreateTable, created]
  simp only [read, filled, metadata_ofEntries]
  rw [if_neg Bool.false_ne_true, ofEntries_eq]
  rfl

/-- A written table is read as it is written. -/
theorem read_written (spelled : Spells table.tokens text) (index : Nat) :
    ∃ reading metadata, Dialect.standard.read text index = .ok reading ∧ reading.accepted = true ∧
      reading.errors = [] ∧ reading.metadata = some metadata ∧ metadata.name = table.name.name ∧
      (metadata.table.columns.map fun column => (column.name, column.dataType, column.nullable)) =
        (table.columns.map fun column => (column.name.name, column.type.text, !column.notNull)) ∧
      metadata.constraints = table.constraints ∧ metadata.indexes = [] := by
  have read : Dialect.standard.read text index = .ok (Reading.ofKind Dialect.standard .createTable text index) := by
    change Except.ok (Reading.ofKind Dialect.standard (classify text) text index) = _
    rw [table.classify_eq spelled]
  rw [table.ofKind_eq spelled] at read
  refine ⟨_, table.unflagged.applyConstraintFlags, read, rfl, rfl, rfl, ?_, ?_, rfl, rfl⟩
  · exact TableMetadata.applyConstraintFlags_name _
  · rw [TableMetadata.applyConstraintFlags_table table.unflagged_distinct, List.map_map]
    simp [unflagged, TableMetadata.flagged, WrittenColumn.column]

/-- A table whose names begin as the words of clauses do. -/
def nearMisses : WrittenTable where
  name := { text := "Keyword".toList }
  entries := [
    .column {
      name := { text := "primary_x".toList }
      type := { word := "INT".toList }
      notNull := true
      primaryKey := true },
    .constraint (some { text := "Unique_ref".toList })
      (.foreignKey [{ text := "index_type".toList }] { text := "constraints".toList } [{ text := "x".toList }]),
    .column {
      name := { text := "index_type".toList }
      type := { word := "DECIMAL".toList, parameters := some ["10".toList, "2".toList] }
      unique := true },
    .column {
      name := { text := "check_in".toList }
      type := { word := "DATE".toList }
      references := some ({ text := "Keys".toList }, { text := "not_null".toList }) },
    .constraint none (.primaryKey [{ text := "CHECK_IN".toList }, { text := "primary_x".toList }])]

def nearMissesText : Text :=
  "CREATE TABLE Keyword ( primary_x INT NOT NULL PRIMARY KEY , ".toList ++
  ("CONSTRAINT Unique_ref FOREIGN KEY ( index_type ) REFERENCES constraints ( x ) , ".toList ++
  ("index_type DECIMAL(10, 2) UNIQUE , check_in DATE REFERENCES Keys ( not_null ) , ".toList ++
  "PRIMARY KEY ( CHECK_IN , primary_x ) )".toList))

theorem read_nearMisses : Spells nearMisses.tokens nearMissesText ∧
    ∃ reading metadata, Dialect.standard.read nearMissesText 0 = .ok reading ∧ reading.accepted = true ∧
      reading.errors = [] ∧ reading.metadata = some metadata ∧ metadata.name = "keyword".toList ∧
      (metadata.table.columns.map fun column => (column.name, column.dataType, column.nullable)) =
        [("primary_x".toList, "INT".toList, false), ("index_type".toList, "DECIMAL(10, 2)".toList, true),
          ("check_in".toList, "DATE".toList, true)] ∧
      metadata.constraints = [
        { kind := .primaryKey, columns := ["primary_x".toList, "check_in".toList] },
        { kind := .foreignKey, columns := ["index_type".toList], referencedTable := some "constraints".toList,
          referencedColumns := ["x".toList], name := some "unique_ref".toList },
        { kind := .unique, columns := ["index_type".toList] },
        { kind := .foreignKey, columns := ["check_in".toList], referencedTable := some "keys".toList,
          referencedColumns := ["not_null".toList] }] ∧
      metadata.indexes = [] := by
  have spaced : nearMissesText = [' '].intercalate nearMisses.tokens := by decide +kernel
  have spelled : Spells nearMisses.tokens nearMissesText := by
    rw [spaced]
    exact .of_spaces nearMisses.tokens
  obtain ⟨reading, metadata, read, accepted, errors, given, name, columns, constraints, indexes⟩ :=
    nearMisses.read_written spelled 0
  refine ⟨spelled, reading, metadata, read, accepted, errors, given, ?_, ?_, ?_, indexes⟩
  · rw [name]
    decide
  · rw [columns]
    decide
  · rw [constraints]
    decide

end WrittenTable

end Schemata.Ddl
