import Schemata.Proofs.Document.Stored

/-!
The texts in results and in documents, and what becomes of both when each of them is changed.
-/

namespace Schemata

namespace Value

mutual

/-- The value with each of its texts changed, but for the keys of mappings. -/
def mapTexts (change : Text → Text) : Value → Value
  | .text s => .text (change s)
  | .list items => .list (mapItemTexts change items)
  | .map entries => .map (mapEntryTexts change entries)
  | value => value

def mapItemTexts (change : Text → Text) : List Value → List Value
  | [] => []
  | item :: rest => mapTexts change item :: mapItemTexts change rest

def mapEntryTexts (change : Text → Text) : List (Value × Value) → List (Value × Value)
  | [] => []
  | (key, value) :: rest => (key, mapTexts change value) :: mapEntryTexts change rest

end

variable (change : Text → Text)

theorem mapTexts_list (items : List Value) :
    (list items).mapTexts change = .list (items.map (mapTexts change)) := by
  have each : mapItemTexts change items = items.map (mapTexts change) := by
    induction items with
    | nil => rw [mapItemTexts, List.map_nil]
    | cons item rest ih => rw [mapItemTexts, ih, List.map_cons]
  rw [mapTexts, each]

theorem mapTexts_map (fields : List (Text × Value)) :
    (map (fields.map ofField)).mapTexts change =
      .map ((fields.map fun (name, value) => (name, value.mapTexts change)).map ofField) := by
  have each : mapEntryTexts change (fields.map ofField) =
      (fields.map fun (name, value) => (name, value.mapTexts change)).map ofField := by
    induction fields with
    | nil => rfl
    | cons field rest ih =>
        rw [List.map_cons, ofField, mapEntryTexts, ih]
        rfl
  rw [mapTexts, each]

theorem mapTexts_record (fields : List (String × Value)) :
    (record fields).mapTexts change =
      record (fields.map fun (name, value) => (name, value.mapTexts change)) := by
  rw [record_eq, mapTexts_map, record_eq]
  simp [textFields]

theorem mapTexts_ofText? (s : Option Text) : (ofText? s).mapTexts change = ofText? (s.map change) := by
  cases s <;> rfl

theorem mapTexts_ofNat? (n : Option Nat) : (ofNat? n).mapTexts change = ofNat? n := by
  cases n <;> rfl

theorem isGiven_ofText? {s : Option Text} (keeps : ∀ s, change s = [] ↔ s = []) :
    (ofText? (s.map change)).isGiven = (ofText? s).isGiven := by
  cases s with
  | none => rfl
  | some s =>
      rw [Bool.eq_iff_iff]
      simp [ofText?, isGiven, keeps]

end Value

/-! ### The texts of a result -/

def ColumnReference.texts (reference : ColumnReference) : List Text :=
  [reference.table, reference.column]

def ForeignReference.texts (reference : ForeignReference) : List Text :=
  reference.table.toList ++ [reference.column]

def Column.texts (column : Column) : List Text :=
  column.name :: column.dataType :: column.foreignKey.toList.flatMap ForeignReference.texts

def Table.texts (table : Table) : List Text :=
  table.name :: table.columns.flatMap Column.texts

def Relationship.texts (relationship : Relationship) : List Text :=
  relationship.source.texts ++ relationship.target.texts ++ relationship.junctionTable.toList

def Diagnostic.texts (diagnostic : Diagnostic) : List Text :=
  diagnostic.message :: diagnostic.statement.toList

def Result.texts (result : Result) : List Text :=
  result.tables.flatMap Table.texts ++ result.relationships.flatMap Relationship.texts ++
    result.junctionTables ++ result.diagnostics.flatMap Diagnostic.texts

section Change

variable (change : Text → Text)

def ColumnReference.mapTexts (reference : ColumnReference) : ColumnReference :=
  ⟨change reference.table, change reference.column⟩

def ForeignReference.mapTexts (reference : ForeignReference) : ForeignReference :=
  ⟨reference.table.map change, change reference.column⟩

def Column.mapTexts (column : Column) : Column :=
  { column with
    name := change column.name
    dataType := change column.dataType
    foreignKey := column.foreignKey.map (ForeignReference.mapTexts change) }

def Table.mapTexts (table : Table) : Table :=
  ⟨change table.name, table.columns.map (Column.mapTexts change)⟩

def Relationship.mapTexts (relationship : Relationship) : Relationship :=
  { relationship with
    source := relationship.source.mapTexts change
    target := relationship.target.mapTexts change
    junctionTable := relationship.junctionTable.map change }

def Diagnostic.mapTexts (diagnostic : Diagnostic) : Diagnostic :=
  { diagnostic with
    message := change diagnostic.message
    statement := diagnostic.statement.map change }

/-- The result with each of its texts changed. -/
def Result.mapTexts (result : Result) : Result where
  tables := result.tables.map (Table.mapTexts change)
  relationships := result.relationships.map (Relationship.mapTexts change)
  junctionTables := result.junctionTables.map change
  diagnostics := result.diagnostics.map (Diagnostic.mapTexts change)

variable {change}

theorem map_eq_self_iff {α : Type} {f : α → α} {list : List α} :
    list.map f = list ↔ ∀ a ∈ list, f a = a := by
  have same := List.map_inj_left (l := list) (f := f) (g := id)
  rwa [List.map_id] at same

theorem option_map_eq_self_iff {α : Type} {f : α → α} {option : Option α} :
    option.map f = option ↔ ∀ a ∈ option.toList, f a = a := by
  cases option <;> simp

theorem ColumnReference.mapTexts_eq_self_iff {reference : ColumnReference} :
    reference.mapTexts change = reference ↔ ∀ s ∈ reference.texts, change s = s := by
  cases reference
  simp [mapTexts, texts]

theorem ForeignReference.mapTexts_eq_self_iff {reference : ForeignReference} :
    reference.mapTexts change = reference ↔ ∀ s ∈ reference.texts, change s = s := by
  cases reference
  simp only [mapTexts, texts, mk.injEq, List.forall_mem_append, option_map_eq_self_iff,
    List.forall_mem_singleton]

theorem Column.mapTexts_eq_self_iff {column : Column} :
    column.mapTexts change = column ↔ ∀ s ∈ column.texts, change s = s := by
  cases column
  simp only [mapTexts, texts, mk.injEq, List.forall_mem_cons, List.forall_mem_flatMap, true_and,
    option_map_eq_self_iff, ForeignReference.mapTexts_eq_self_iff]

theorem Table.mapTexts_eq_self_iff {table : Table} :
    table.mapTexts change = table ↔ ∀ s ∈ table.texts, change s = s := by
  cases table
  simp only [mapTexts, texts, mk.injEq, List.forall_mem_cons, List.forall_mem_flatMap, map_eq_self_iff,
    Column.mapTexts_eq_self_iff]

theorem Relationship.mapTexts_eq_self_iff {relationship : Relationship} :
    relationship.mapTexts change = relationship ↔ ∀ s ∈ relationship.texts, change s = s := by
  cases relationship
  simp only [mapTexts, texts, mk.injEq, List.forall_mem_append, option_map_eq_self_iff,
    ColumnReference.mapTexts_eq_self_iff, true_and, and_true, and_assoc]

theorem Diagnostic.mapTexts_eq_self_iff {diagnostic : Diagnostic} :
    diagnostic.mapTexts change = diagnostic ↔ ∀ s ∈ diagnostic.texts, change s = s := by
  cases diagnostic
  simp only [mapTexts, texts, mk.injEq, List.forall_mem_cons, option_map_eq_self_iff, true_and]

/-- A result stays exactly if each of its texts does. -/
theorem Result.mapTexts_eq_self_iff {result : Result} :
    result.mapTexts change = result ↔ ∀ s ∈ result.texts, change s = s := by
  cases result
  simp only [mapTexts, texts, mk.injEq, List.forall_mem_append, List.forall_mem_flatMap, map_eq_self_iff,
    Table.mapTexts_eq_self_iff, Relationship.mapTexts_eq_self_iff, Diagnostic.mapTexts_eq_self_iff, and_assoc]

/-! ### Encoding -/

theorem mapTexts_encoded {α β : Type} {step : α → α} {store : α → β} {encode : β → Value}
    (each : ∀ a, encode (store (step a)) = (encode (store a)).mapTexts change) (list : List α) :
    (Value.list ((list.map store).map encode)).mapTexts change =
      .list (((list.map step).map store).map encode) := by
  rw [Value.mapTexts_list, List.map_map, List.map_map, List.map_map, List.map_map]
  exact congrArg Value.list (List.map_congr_left fun a _ => (each a).symm)

variable (change) in
/-- The change leaves the labels of cardinalities, origins and severities as they are. -/
structure LeavesLabels : Prop where
  cardinality : ∀ cardinality : Cardinality, change cardinality.label = cardinality.label
  origin : ∀ origin : Origin, change origin.label = origin.label
  severity : ∀ severity : Severity, change severity.label = severity.label
  empty : ∀ s, change s = [] ↔ s = []

theorem ColumnReference.encode_mapTexts (reference : ColumnReference) :
    (reference.mapTexts change).stored.encode = reference.stored.encode.mapTexts change := by
  rw [Stored.Reference.encode, Stored.Reference.encode, Value.mapTexts_record]
  simp [stored, mapTexts, Value.mapTexts]

theorem ForeignReference.encode_mapTexts (reference : ForeignReference) :
    (reference.mapTexts change).stored.encode = reference.stored.encode.mapTexts change := by
  rw [Stored.Reference.encode, Stored.Reference.encode, Value.mapTexts_record]
  simp [stored, mapTexts, Value.mapTexts_ofText?, Value.mapTexts]

theorem Column.encode_mapTexts (column : Column) :
    (column.mapTexts change).stored.encode = column.stored.encode.mapTexts change := by
  rw [Stored.Column.encode, Stored.Column.encode, Value.mapTexts_record]
  cases found : column.foreignKey with
  | none => simp [stored, mapTexts, Value.mapTexts, found]
  | some reference => simp [stored, mapTexts, Value.mapTexts, found, reference.encode_mapTexts]

theorem Table.encode_mapTexts (table : Table) :
    (table.mapTexts change).stored.encode = table.stored.encode.mapTexts change := by
  have columns : (Value.list (table.stored.columns.map Stored.Column.encode)).mapTexts change =
      .list ((table.mapTexts change).stored.columns.map Stored.Column.encode) :=
    mapTexts_encoded Column.encode_mapTexts table.columns
  rw [Stored.Table.encode, Stored.Table.encode, Value.mapTexts_record]
  simp only [List.map_cons, List.map_nil, columns]
  rfl

theorem Relationship.encode_mapTexts (labels : LeavesLabels change) (relationship : Relationship) :
    (relationship.mapTexts change).stored.encode = relationship.stored.encode.mapTexts change := by
  have given := Value.isGiven_ofText? change (s := relationship.junctionTable) labels.empty
  rw [Stored.Relationship.encode, Stored.Relationship.encode, Value.mapTexts_record]
  simp only [stored, mapTexts, given]
  by_cases there : (Value.ofText? relationship.junctionTable).isGiven = true
  · simp [there, Value.mapTexts, Value.mapTexts_ofText?, ColumnReference.encode_mapTexts, labels.cardinality,
      labels.origin]
  · simp [there, Value.mapTexts, ColumnReference.encode_mapTexts, labels.cardinality, labels.origin]

theorem Diagnostic.encode_mapTexts (labels : LeavesLabels change) (diagnostic : Diagnostic) :
    (diagnostic.mapTexts change).stored.encode = diagnostic.stored.encode.mapTexts change := by
  rw [Stored.Diagnostic.encode, Stored.Diagnostic.encode, Value.mapTexts_record]
  simp [stored, mapTexts, Value.mapTexts, Value.mapTexts_ofText?, Value.mapTexts_ofNat?, labels.severity]

/-- Changing the texts of a result changes those of its document. -/
theorem Result.encode_mapTexts (labels : LeavesLabels change) (result : Result) :
    (result.mapTexts change).stored.encode = result.stored.encode.mapTexts change := by
  have tables : (Value.list (result.stored.schema.tables.map Stored.Table.encode)).mapTexts change =
      .list ((result.mapTexts change).stored.schema.tables.map Stored.Table.encode) :=
    mapTexts_encoded Table.encode_mapTexts result.tables
  have relationships :
      (Value.list (result.stored.schema.relationships.map Stored.Relationship.encode)).mapTexts change =
        .list ((result.mapTexts change).stored.schema.relationships.map Stored.Relationship.encode) :=
    mapTexts_encoded (Relationship.encode_mapTexts labels) result.relationships
  have junctions : (Value.list result.stored.junctionTables).mapTexts change =
      .list (result.mapTexts change).stored.junctionTables := by
    rw [Value.mapTexts_list]
    simp [stored, mapTexts, Value.mapTexts]
  have diagnostics : (Value.list (result.stored.diagnostics.map Stored.Diagnostic.encode)).mapTexts change =
      .list ((result.mapTexts change).stored.diagnostics.map Stored.Diagnostic.encode) :=
    mapTexts_encoded (Diagnostic.encode_mapTexts labels) result.diagnostics
  rw [Stored.Result.encode, Stored.Result.encode, Value.mapTexts_record]
  simp only [Stored.Schema.fields, List.cons_append, List.nil_append, List.map_cons, List.map_nil, tables,
    relationships, junctions, diagnostics]

end Change

end Schemata
