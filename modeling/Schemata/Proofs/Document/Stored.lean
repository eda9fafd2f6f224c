import Schemata.Document.Stored
import Schemata.Proofs.Yaml.Storable

/-!
Schemas that are encoded and decoded again. The value that a schema is encoded as can be stored, and
decoding gives back what was encoded.
-/

namespace Schemata

/-! ### Records -/

namespace Value

theorem lookup?_record (name : String) (fields : List (String × Value)) :
    lookup? (.text name.toList) (fields.map fun (name, value) => (.text name.toList, value)) =
      fields.lookup name := by
  induction fields with
  | nil => rfl
  | cons field rest ih =>
      obtain ⟨other, value⟩ := field
      rw [List.map_cons, lookup?, same_text, ih, List.lookup_cons]
      by_cases equal : name = other
      · subst equal
        simp
      · have differs : other.toList ≠ name.toList := fun same => equal (String.toList_inj.mp same).symm
        simp [beq_eq_false_iff_ne.mpr equal, differs]

theorem item_record {name : String} {fields : List (String × Value)} {value : Value}
    (found : fields.lookup name = some value) : (record fields).item name.toList = .ok value := by
  have there := (lookup?_record name fields).trans found
  rw [record, item]
  dsimp only
  rw [there]
  rfl

theorem getD_record {name : String} {fields : List (String × Value)} {value : Value}
    (found : fields.lookup name = some value) (default : Value) :
    (record fields).getD name.toList default = .ok value := by
  have there := (lookup?_record name fields).trans found
  change Except.ok ((lookup? (.text name.toList) (fields.map fun (name, value) =>
    (.text name.toList, value))).getD default) = _
  rw [there]
  rfl

theorem getD_record_missing {name : String} {fields : List (String × Value)}
    (missing : fields.lookup name = none) (default : Value) :
    (record fields).getD name.toList default = .ok default := by
  have there := (lookup?_record name fields).trans missing
  change Except.ok ((lookup? (.text name.toList) (fields.map fun (name, value) =>
    (.text name.toList, value))).getD default) = _
  rw [there]
  rfl

theorem isGiven_record (field : String × Value) (rest : List (String × Value)) :
    (record (field :: rest)).isGiven = true := rfl

end Value

/-- Decoding each encoded element of a list gives the list. -/
theorem mapM_decode {α β : Type} {ε : Type} {encode : α → β} {decode : β → Except ε α} {items : List α}
    (each : ∀ item ∈ items, decode (encode item) = .ok item) :
    (items.map encode).mapM decode = .ok items := by
  induction items with
  | nil => rfl
  | cons item rest ih =>
      obtain ⟨first, others⟩ := List.forall_mem_cons.mp each
      rw [List.map_cons, List.mapM_cons, first, ih others]
      rfl

namespace Stored

open Value

theorem Reference.decode_encode (reference : Reference) : decode reference.encode = .ok reference := by
  rw [decode, encode, item_record rfl, item_record rfl]
  rfl

theorem Column.decode_encode (column : Column) : decode column.encode = .ok column := by
  rw [decode, encode, item_record rfl, getD_record rfl, getD_record rfl, getD_record rfl, getD_record rfl]
  obtain ⟨name, dataType, nullable, primaryKey, foreignKey⟩ := column
  cases foreignKey with
  | none => rfl
  | some reference =>
      have given : reference.encode.isGiven = true := isGiven_record _ _
      simp [bind, Except.bind, pure, Except.pure, given, reference.decode_encode]

theorem Table.decode_encode (table : Table) : decode table.encode = .ok table := by
  have columns := mapM_decode fun column (_ : column ∈ table.columns) => column.decode_encode
  rw [decode, encode, item_record rfl, getD_record rfl]
  simp [bind, Except.bind, pure, Except.pure, elements, columns]

/-- A junction table is given or left out. -/
def Relationship.IsWhole (relationship : Relationship) : Prop :=
  relationship.junctionTable.isGiven = true ∨ relationship.junctionTable = .null

theorem Relationship.decode_encode {relationship : Relationship} (whole : relationship.IsWhole) :
    decode relationship.encode = .ok relationship := by
  obtain ⟨source, target, cardinality, junctionTable, origin⟩ := relationship
  have label : decodeCardinality (.text cardinality.label) = .ok cardinality := by
    rw [decodeCardinality, Cardinality.ofLabel?_label]
    rfl
  rw [decode, encode]
  dsimp only
  rcases whole with given | rfl
  · rw [if_pos given, item_record rfl, item_record rfl, item_record rfl, getD_record rfl, getD_record rfl]
    simp [bind, Except.bind, pure, Except.pure, source.decode_encode, target.decode_encode, label]
  · rw [if_neg (by simp), item_record rfl, item_record rfl, item_record rfl, getD_record_missing rfl,
      getD_record rfl]
    simp [bind, Except.bind, pure, Except.pure, source.decode_encode, target.decode_encode, label]

theorem Diagnostic.decode_encode (diagnostic : Diagnostic) : decode diagnostic.encode = .ok diagnostic := by
  have label : decodeSeverity (.text diagnostic.severity.label) = .ok diagnostic.severity := by
    rw [decodeSeverity, Severity.ofLabel?_label]
    rfl
  rw [decode, encode, item_record rfl, getD_record rfl, getD_record rfl, getD_record rfl]
  simp [bind, Except.bind, pure, Except.pure, label]

theorem Result.decode_encode {result : Result}
    (whole : ∀ relationship ∈ result.schema.relationships, relationship.IsWhole) :
    decode result.encode = .ok result := by
  have tables := mapM_decode fun table (_ : table ∈ result.schema.tables) => table.decode_encode
  have relationships := mapM_decode fun relationship member =>
    Relationship.decode_encode (whole relationship member)
  have diagnostics := mapM_decode fun diagnostic (_ : diagnostic ∈ result.diagnostics) =>
    diagnostic.decode_encode
  rw [decode, encode, Schema.fields, Schema.decode, getD_record rfl, getD_record rfl, getD_record rfl,
    getD_record rfl]
  simp [bind, Except.bind, pure, Except.pure, elements, tables, relationships, diagnostics]

end Stored

/-! ### What is stored -/

theorem Value.ofText?_injective : Function.Injective Value.ofText? := by
  rintro (_ | one) (_ | other) same
  · rfl
  · cases same
  · cases same
  · cases same
    rfl

theorem Value.ofNat?_injective : Function.Injective Value.ofNat? := by
  rintro (_ | one) (_ | other) same
  · rfl
  · cases same
  · cases same
  · cases same
    rfl

theorem ColumnReference.stored_injective : Function.Injective ColumnReference.stored := by
  rintro ⟨_, _⟩ ⟨_, _⟩ same
  cases same
  rfl

theorem ForeignReference.stored_injective : Function.Injective ForeignReference.stored := by
  rintro ⟨_, _⟩ ⟨_, _⟩ same
  obtain ⟨table, column⟩ := Stored.Reference.mk.inj same
  obtain rfl := Value.ofText?_injective table
  cases column
  rfl

theorem Origin.label_injective : Function.Injective Origin.label := by
  intro one other
  cases one <;> cases other <;> decide

theorem Column.stored_injective : Function.Injective Column.stored := by
  rintro ⟨_, _, _, _, _⟩ ⟨_, _, _, _, _⟩ same
  obtain ⟨name, dataType, nullable, primaryKey, foreignKey⟩ := Stored.Column.mk.inj same
  obtain rfl := Option.map_injective ForeignReference.stored_injective foreignKey
  cases name
  cases dataType
  cases nullable
  cases primaryKey
  rfl

theorem Table.stored_injective : Function.Injective Table.stored := by
  rintro ⟨_, _⟩ ⟨_, _⟩ same
  obtain ⟨name, columns⟩ := Stored.Table.mk.inj same
  obtain rfl := List.map_injective_iff.mpr Column.stored_injective columns
  cases name
  rfl

theorem Relationship.stored_injective : Function.Injective Relationship.stored := by
  rintro ⟨_, _, _, _, _⟩ ⟨_, _, _, _, _⟩ same
  obtain ⟨source, target, rfl, junctionTable, origin⟩ := Stored.Relationship.mk.inj same
  obtain rfl := ColumnReference.stored_injective source
  obtain rfl := ColumnReference.stored_injective target
  obtain rfl := Value.ofText?_injective junctionTable
  obtain rfl := Origin.label_injective (Value.text.inj origin)
  rfl

theorem Diagnostic.stored_injective : Function.Injective Diagnostic.stored := by
  rintro ⟨_, _, _, _⟩ ⟨_, _, _, _⟩ same
  obtain ⟨message, statementIndex, rfl, statement⟩ := Stored.Diagnostic.mk.inj same
  obtain rfl := Value.ofNat?_injective statementIndex
  obtain rfl := Value.ofText?_injective statement
  cases message
  rfl

/-- Documents tell results apart. -/
theorem Result.stored_injective : Function.Injective Result.stored := by
  rintro ⟨_, _, _, _⟩ ⟨_, _, _, _⟩ same
  obtain ⟨schema, junctionTables, diagnostics⟩ := Stored.Result.mk.inj same
  obtain ⟨tables, relationships⟩ := Stored.Schema.mk.inj schema
  obtain rfl := List.map_injective_iff.mpr Table.stored_injective tables
  obtain rfl := List.map_injective_iff.mpr Relationship.stored_injective relationships
  obtain rfl := List.map_injective_iff.mpr (fun _ _ => Value.text.inj) junctionTables
  obtain rfl := List.map_injective_iff.mpr Diagnostic.stored_injective diagnostics
  rfl

/-! ### Storing -/

/-- The keys of encoded schemas. -/
def documentKeys : List String := [
  "tables", "relationships", "junction_tables", "diagnostics", "name", "columns", "type", "nullable",
  "primary_key", "foreign_key", "table", "column", "from", "to", "origin", "junction_table", "message",
  "statement_index", "severity", "statement"]

theorem isName_documentKeys : ∀ key ∈ documentKeys, IsName key.toList := by
  have filled : ∀ key ∈ documentKeys, key.toList ≠ [] := by decide
  have letters : ∀ key ∈ documentKeys, key.toList.all Yaml.isNameChar = true := by decide
  have short : ∀ key ∈ documentKeys, key.toList.length ≤ 100 := by decide
  have unknown : ∀ key ∈ documentKeys, Yaml.implicitKind? key.toList = none := by decide
  exact fun key member =>
    ⟨filled key member, List.all_eq_true.mp (letters key member), short key member, unknown key member⟩

namespace Value

variable {depth : Nat}

/-- The fields of a record as texts with values. -/
def textFields (fields : List (String × Value)) : List (Text × Value) :=
  fields.map fun (name, value) => (name.toList, value)

theorem record_eq (fields : List (String × Value)) :
    record fields = .map ((textFields fields).map ofField) := by
  simp [record, textFields, ofField]

/-- A record of fields that are known and different. -/
structure IsDocument (depth : Nat) (fields : List (String × Value)) : Prop where
  known : ∀ field ∈ fields, field.1 ∈ documentKeys
  distinct : (fields.map Prod.fst).Nodup
  each : ∀ field ∈ fields, field.2.Storable depth

namespace IsDocument

variable {fields : List (String × Value)}

theorem names (document : IsDocument depth fields) : ∀ field ∈ textFields fields, IsName field.1 := by
  intro field member
  obtain ⟨⟨name, value⟩, inside, rfl⟩ := List.mem_map.mp member
  exact isName_documentKeys name (document.known _ inside)

theorem texts_distinct (document : IsDocument depth fields) : ((textFields fields).map Prod.fst).Nodup := by
  have keys : (textFields fields).map Prod.fst = (fields.map Prod.fst).map String.toList := by
    simp [textFields]
  rw [keys]
  exact document.distinct.map fun _ _ => String.toList_inj.mp

theorem texts_each (document : IsDocument depth fields) :
    ∀ field ∈ textFields fields, field.2.Storable depth := by
  intro field member
  obtain ⟨⟨name, value⟩, inside, rfl⟩ := List.mem_map.mp member
  exact document.each _ inside

theorem storable (document : IsDocument depth fields) : (record fields).Storable (depth + 1) := by
  rw [record_eq]
  exact .map document.names document.texts_distinct document.texts_each

end IsDocument

theorem storable_ofText? (s : Option Text) : (ofText? s).Storable depth := by
  cases s with
  | none => exact .null
  | some s => exact .text s

theorem storable_ofNat? {n : Option Nat} (short : ∀ m ∈ n, m < 10 ^ Text.digitLimit) :
    (ofNat? n).Storable depth := by
  cases n with
  | none => exact .null
  | some n => exact .int (short n rfl)

theorem storable_list {α : Type} {encode : α → Value} {items : List α}
    (each : ∀ item ∈ items, (encode item).Storable depth) :
    (list (items.map encode)).Storable (depth + 1) := by
  refine .list fun value member => ?_
  obtain ⟨item, inside, rfl⟩ := List.mem_map.mp member
  exact each item inside

end Value

open Value

variable {depth : Nat}

theorem ColumnReference.storable (reference : ColumnReference) :
    reference.stored.encode.Storable (depth + 1) := by
  refine IsDocument.storable ⟨by simp [documentKeys], by simp, ?_⟩
  simp only [List.forall_mem_cons]
  exact ⟨.text _, .text _, List.forall_mem_nil _⟩

theorem ForeignReference.storable (reference : ForeignReference) :
    reference.stored.encode.Storable (depth + 1) := by
  refine IsDocument.storable ⟨by simp [documentKeys], by simp, ?_⟩
  simp only [List.forall_mem_cons]
  exact ⟨storable_ofText? _, .text _, List.forall_mem_nil _⟩

theorem Column.storable (column : Column) : column.stored.encode.Storable (depth + 2) := by
  have reference :
      (((column.foreignKey.map ForeignReference.stored).map Stored.Reference.encode).getD .null).Storable
        (depth + 1) := by
    cases column.foreignKey with
    | none => exact .null
    | some reference => exact reference.storable
  refine IsDocument.storable ⟨by simp [documentKeys], by simp, ?_⟩
  simp only [List.forall_mem_cons]
  exact ⟨.text _, .text _, .bool _, .bool _, reference, List.forall_mem_nil _⟩

theorem Table.storable (table : Table) : table.stored.encode.Storable (depth + 4) := by
  have columns : (Value.list ((table.columns.map Column.stored).map Stored.Column.encode)).Storable
      (depth + 3) := by
    rw [List.map_map]
    exact storable_list fun column _ => column.storable
  refine IsDocument.storable ⟨by simp [documentKeys], by simp, ?_⟩
  simp only [List.forall_mem_cons]
  exact ⟨.text _, columns, List.forall_mem_nil _⟩

theorem Relationship.storable (relationship : Relationship) :
    relationship.stored.encode.Storable (depth + 2) := by
  have source : relationship.source.stored.encode.Storable (depth + 1) := relationship.source.storable
  have target : relationship.target.stored.encode.Storable (depth + 1) := relationship.target.storable
  rw [Stored.Relationship.encode]
  split
  · refine IsDocument.storable ⟨by simp [documentKeys], by simp, ?_⟩
    simp only [List.cons_append, List.nil_append, List.forall_mem_cons]
    exact ⟨source, target, .text _, .text _, storable_ofText? _, List.forall_mem_nil _⟩
  · refine IsDocument.storable ⟨by simp [documentKeys], by simp, ?_⟩
    simp only [List.cons_append, List.nil_append, List.forall_mem_cons]
    exact ⟨source, target, .text _, .text _, List.forall_mem_nil _⟩

theorem Diagnostic.storable {diagnostic : Diagnostic}
    (short : ∀ index ∈ diagnostic.statementIndex, index < 10 ^ Text.digitLimit) :
    diagnostic.stored.encode.Storable (depth + 1) := by
  refine IsDocument.storable ⟨by simp [documentKeys], by simp, ?_⟩
  simp only [List.forall_mem_cons]
  exact ⟨.text _, storable_ofNat? short, .text _, storable_ofText? _, List.forall_mem_nil _⟩

/-- The fields of an encoded result. -/
def Stored.Result.fields (result : Stored.Result) : List (String × Value) :=
  result.schema.fields ++ [
    ("junction_tables", .list result.junctionTables),
    ("diagnostics", .list (result.diagnostics.map Stored.Diagnostic.encode))]

theorem Result.isDocument {result : Result}
    (short : ∀ diagnostic ∈ result.diagnostics, ∀ index ∈ diagnostic.statementIndex,
      index < 10 ^ Text.digitLimit) : IsDocument 5 result.stored.fields := by
  have tables : (Value.list ((result.tables.map Table.stored).map Stored.Table.encode)).Storable 5 := by
    rw [List.map_map]
    exact storable_list fun table _ => table.storable
  have relationships :
      (Value.list ((result.relationships.map Relationship.stored).map
        Stored.Relationship.encode)).Storable 5 := by
    rw [List.map_map]
    exact storable_list fun relationship _ => relationship.storable
  have junctions : (Value.list (result.junctionTables.map .text)).Storable 5 :=
    storable_list fun name _ => .text name
  have diagnostics :
      (Value.list ((result.diagnostics.map Diagnostic.stored).map Stored.Diagnostic.encode)).Storable 5 := by
    rw [List.map_map]
    exact storable_list fun diagnostic member => Diagnostic.storable (short diagnostic member)
  refine ⟨by simp [Stored.Result.fields, Stored.Schema.fields, documentKeys],
    by simp [Stored.Result.fields, Stored.Schema.fields], ?_⟩
  simp only [Stored.Result.fields, Stored.Schema.fields, List.cons_append, List.nil_append,
    List.forall_mem_cons]
  exact ⟨tables, relationships, junctions, diagnostics, List.forall_mem_nil _⟩

end Schemata
