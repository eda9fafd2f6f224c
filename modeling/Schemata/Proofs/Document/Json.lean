import Schemata.Proofs.Document.RoundTrip
import Schemata.Proofs.Yaml.Flow

/-!
Documents of JSON that are read as YAML. A stored value reads as itself with its texts in units of sixteen
bits, so that a result loads as itself exactly if none of its texts goes beyond them.
-/

namespace Schemata

namespace Yaml

variable {fuel level : Nat} {cursor : Cursor} {tail : Text}

/-! ### Collections -/

theorem writeItems_eq (level : Nat) (items : List Value) :
    Json.writeItems level items = writeRest level (Json.write level) items := by
  induction items with
  | nil => rfl
  | cons item rest ih =>
      rw [Json.writeItems, ih]
      rfl

theorem writeEntries_eq (level : Nat) (fields : List (Text × Value)) :
    Json.writeEntries level (fields.map Value.ofField) = writeRest level (writeMember level) fields := by
  induction fields with
  | nil => rfl
  | cons field rest ih =>
      rw [List.map_cons, Value.ofField, Json.writeEntries, ih]
      simp [writeRest, writeMember, Json.keyText]

theorem write_list (level : Nat) (item : Value) (rest : List Value) (tail : Text) :
    Json.write level (.list (item :: rest)) ++ tail =
      '[' :: '\n' :: (blanks (2 * (level + 1)) ++ (Json.write (level + 1) item ++
        (writeRest (level + 1) (Json.write (level + 1)) rest ++
          '\n' :: (blanks (2 * level) ++ ']' :: tail)))) := by
  rw [Json.write, writeItems_eq]
  simp [Json.line, blanks]

theorem write_map (level : Nat) (field : Text × Value) (rest : List (Text × Value)) (tail : Text) :
    Json.write level (.map ((field :: rest).map Value.ofField)) ++ tail =
      '\x7b' :: '\n' :: (blanks (2 * (level + 1)) ++ (writeMember (level + 1) field ++
        (writeRest (level + 1) (writeMember (level + 1)) rest ++
          '\n' :: (blanks (2 * level) ++ '\x7d' :: tail)))) := by
  rw [List.map_cons, Value.ofField, Json.write, writeEntries_eq]
  simp [Json.line, writeMember, Json.keyText, blanks]

theorem itemsStandFor_halved {entries : List FlowEntry} {items : List Value}
    (each : List.Forall₂ (fun entry item => entry.item.StandsFor (halved item)) entries items) :
    Node.ItemsStandFor (entries.map FlowEntry.item) (items.map halved) := by
  induction each with
  | nil => exact Node.itemsStandFor_nil
  | cons first _ rest => exact rest.cons first

theorem entriesStandFor_halved {entries : List FlowEntry} {fields : List (Text × Value)}
    (each : List.Forall₂ (fun entry field =>
      entry.pair.1.IsKey field.1 ∧ entry.pair.2.StandsFor (halved field.2)) entries fields) :
    Node.EntriesStandFor (entries.map FlowEntry.pair) (fields.map fun field => (field.1, halved field.2)) := by
  induction each with
  | nil => exact Node.entriesStandFor_nil
  | cons first _ rest => exact rest.cons first.1 first.2

/-- A list reads item by item. -/
theorem gives_list {item : Value} {rest : List Value}
    (each : ∀ other ∈ item :: rest, FlowReads (level + 1) other)
    (enough : 4 * (Json.write level (.list (item :: rest))).length ≤ fuel)
    (here : cursor.rest = Json.write level (.list (item :: rest)) ++ tail) :
    Gives (halved (.list (item :: rest))) tail (flowNode fuel cursor) := by
  have whole := congrArg List.length (write_list level item rest [])
  simp only [List.append_nil, List.length_cons, List.length_append] at whole
  obtain ⟨fuel, rfl⟩ := Nat.exists_eq_add_of_le' (by omega : 1 ≤ fuel)
  rw [write_list] at here
  have inside := cursor.forward_rest 1
  rw [here, List.drop_one, List.tail_cons] at inside
  obtain ⟨entries, last, read, holds, left⟩ := flowEntries_filled (Json.write (level + 1)) (Or.inl rfl)
    (fun other member => entryReads_item (each other member)) (by omega : _ ≤ fuel) inside
  refine ⟨.list (entries.map FlowEntry.item), last, ?_, ?_, left⟩
  · rw [flowNode, if_pos (by simp [Cursor.isAt, here]), read]
    rfl
  · rw [halved, Value.mapTexts_list]
    exact (itemsStandFor_halved holds).list

/-- A mapping reads field by field. -/
theorem gives_map {field : Text × Value} {rest : List (Text × Value)}
    (names : ∀ other ∈ field :: rest, IsName other.1) (distinct : ((field :: rest).map Prod.fst).Nodup)
    (each : ∀ other ∈ field :: rest, FlowReads (level + 1) other.2)
    (enough : 4 * (Json.write level (.map ((field :: rest).map Value.ofField))).length ≤ fuel)
    (here : cursor.rest = Json.write level (.map ((field :: rest).map Value.ofField)) ++ tail) :
    Gives (halved (.map ((field :: rest).map Value.ofField))) tail (flowNode fuel cursor) := by
  have whole := congrArg List.length (write_map level field rest [])
  simp only [List.append_nil, List.length_cons, List.length_append] at whole
  obtain ⟨fuel, rfl⟩ := Nat.exists_eq_add_of_le' (by omega : 1 ≤ fuel)
  rw [write_map] at here
  have inside := cursor.forward_rest 1
  rw [here, List.drop_one, List.tail_cons] at inside
  obtain ⟨entries, last, read, holds, left⟩ := flowEntries_filled (writeMember (level + 1)) (Or.inr rfl)
    (fun other member => entryReads_field (names other member) (each other member))
    (by omega : _ ≤ fuel) inside
  refine ⟨.map (entries.map FlowEntry.pair), last, ?_, ?_, left⟩
  · rw [flowNode, if_neg (by simp [Cursor.isAt, here]), if_pos (by simp [Cursor.isAt, here]), read]
    rfl
  · rw [halved, Value.mapTexts_map]
    refine (entriesStandFor_halved holds).map ?_
    rw [List.map_map]
    exact distinct

theorem flowReads_list {items : List Value} (each : ∀ item ∈ items, FlowReads (level + 1) item) :
    FlowReads level (.list items) where
  begins := by
    cases items with
    | nil => exact ⟨'[', _, rfl, by decide⟩
    | cons item rest => exact ⟨'[', _, rfl, by decide⟩
  gives := by
    intro fuel cursor tail enough here _
    cases items with
    | nil =>
        obtain ⟨fuel, rfl⟩ := exists_fuel (by simp [Json.write]) enough
        obtain ⟨line, column, rest⟩ := cursor
        obtain rfl : rest = '[' :: ']' :: tail := here
        refine ⟨.list [], ⟨line, column + 1 + 1, tail⟩, ?_, Node.itemsStandFor_nil.list, rfl⟩
        rw [flowNode, if_pos (by simp [Cursor.isAt])]
        rfl
    | cons item rest => exact gives_list each enough here

theorem flowReads_map {fields : List (Text × Value)} (names : ∀ field ∈ fields, IsName field.1)
    (distinct : (fields.map Prod.fst).Nodup) (each : ∀ field ∈ fields, FlowReads (level + 1) field.2) :
    FlowReads level (.map (fields.map Value.ofField)) where
  begins := by
    cases fields with
    | nil => exact ⟨'\x7b', _, rfl, by decide⟩
    | cons field rest => exact ⟨'\x7b', _, rfl, by decide⟩
  gives := by
    intro fuel cursor tail enough here _
    cases fields with
    | nil =>
        obtain ⟨fuel, rfl⟩ := exists_fuel (by simp [Json.write]) enough
        obtain ⟨line, column, rest⟩ := cursor
        obtain rfl : rest = '\x7b' :: '\x7d' :: tail := here
        refine ⟨.map [], ⟨line, column + 1 + 1, tail⟩, ?_, Node.entriesStandFor_nil.map List.nodup_nil, rfl⟩
        rw [flowNode, if_neg (by simp [Cursor.isAt]), if_pos (by simp [Cursor.isAt])]
        rfl
    | cons field rest => exact gives_map names distinct each enough here

/-- A stored value reads between brackets and braces on every level. -/
theorem flowReads_of_storable {depth : Nat} {value : Value} (storable : value.Storable depth) (level : Nat) :
    FlowReads level value := by
  induction storable generalizing level with
  | null => exact flowReads_word (by decide) (isNameChar_of_word true 0).1 rfl plainValue_null
  | bool b =>
      exact flowReads_word (by cases b <;> decide) (isNameChar_of_word b 0).2.1 rfl (plainValue_bool b)
  | int short =>
      rename_i n
      exact flowReads_word (digits_filled n) (isNameChar_of_word true n).2.2 (integerText_natCast n)
        (plainValue_digits short)
  | text s => exact flowReads_text level s
  | list each ih => exact flowReads_list fun item member => ih item member (level + 1)
  | map names distinct each ih =>
      exact flowReads_map names distinct fun field member => ih field member (level + 1)

/-! ### Documents -/

theorem isPrinted_line (level : Nat) : IsPrinted (Json.line level) :=
  isPrinted_cons.mpr ⟨by decide, isPrinted_blanks (2 * level)⟩

theorem isPrinted_writeRest {α : Type} {write : α → Text} {list : List α}
    (each : ∀ a ∈ list, IsPrinted (write a)) (level : Nat) : IsPrinted (writeRest level write list) := by
  have comma : needsEscape ',' = false := by decide
  refine List.forall_mem_flatMap.mpr fun a member => ?_
  exact isPrinted_append.mpr ⟨isPrinted_cons.mpr ⟨comma, isPrinted_line level⟩, each a member⟩

theorem isPrinted_writeMember {field : Text × Value} (printed : IsPrinted (Json.write level field.2)) :
    IsPrinted (writeMember level field) :=
  isPrinted_append.mpr ⟨isPrinted_append.mpr ⟨isPrinted_quoted field.1, by decide⟩, printed⟩

theorem isPrinted_write {depth : Nat} {value : Value} (storable : value.Storable depth) (level : Nat) :
    IsPrinted (Json.write level value) := by
  have brackets : needsEscape '[' = false ∧ needsEscape ']' = false := by decide
  have braces : needsEscape '\x7b' = false ∧ needsEscape '\x7d' = false := by decide
  have feed : needsEscape '\n' = false := by decide
  induction storable generalizing level with
  | null => exact isPrinted_letters (isNameChar_of_word true 0).1
  | bool b => exact isPrinted_letters (isNameChar_of_word b 0).2.1
  | int short =>
      rename_i n
      change IsPrinted (Value.integerText n)
      rw [integerText_natCast]
      exact isPrinted_letters (isNameChar_of_word true n).2.2
  | text s => exact isPrinted_quoted s
  | list each ih =>
      rename_i items
      cases items with
      | nil => exact isPrinted_cons.mpr ⟨brackets.1, isPrinted_cons.mpr ⟨brackets.2, isPrinted_nil⟩⟩
      | cons item rest =>
          have printed := List.forall_mem_cons.mp fun other member => ih other member (level + 1)
          have others := isPrinted_writeRest printed.2 (level + 1)
          rw [← List.append_nil (Json.write level _), write_list]
          simp [brackets, feed, printed.1, others]
  | map names distinct each ih =>
      rename_i fields
      cases fields with
      | nil => exact isPrinted_cons.mpr ⟨braces.1, isPrinted_cons.mpr ⟨braces.2, isPrinted_nil⟩⟩
      | cons field rest =>
          have printed := List.forall_mem_cons.mp fun other member =>
            isPrinted_writeMember (ih other member (level + 1))
          have others := isPrinted_writeRest printed.2 (level + 1)
          rw [← List.append_nil (Json.write level _), write_map]
          simp [braces, feed, printed.1, others]

theorem next_end {cursor : Cursor} (left : cursor.rest = []) : cursor.next.rest = [] := by
  rw [Cursor.next, left]
  rfl

/-- A mapping between braces that nothing follows. -/
theorem blockNode_brace {s : Text} {node : Node} {after : Cursor}
    (read : flowNode fuel (.start ('\x7b' :: s)) = .ok (node, after)) (left : after.rest = []) :
    blockNode (fuel + 1) (-1) true (.start ('\x7b' :: s)) = .ok (node, after) := by
  have ended : after.next.rest.isEmpty = true := by rw [next_end left, List.isEmpty_nil]
  have dash : (Cursor.start ('\x7b' :: s)).isMark '-' = false := rfl
  have question : (Cursor.start ('\x7b' :: s)).isMark '?' = false := rfl
  have brace : (Cursor.start ('\x7b' :: s)).isAt '\x7b' = true := rfl
  rw [blockNode, dash, if_neg Bool.false_ne_true, question, if_neg Bool.false_ne_true, blockLeaf, brace,
    Bool.or_true, if_pos rfl, read]
  simp [bind, Except.bind, ended, pure, Except.pure]

/-- A mapping that is written as JSON. -/
theorem read_json {depth : Nat} {fields : List (Text × Value)} (filled : fields ≠ [])
    (names : ∀ field ∈ fields, IsName field.1) (distinct : (fields.map Prod.fst).Nodup)
    (each : ∀ field ∈ fields, field.2.Storable depth) :
    read (Json.render (.map (fields.map Value.ofField))) = .ok (halved (.map (fields.map Value.ofField))) := by
  have printed : IsPrinted (Json.render (.map (fields.map Value.ofField))) :=
    isPrinted_write (.map names distinct each) 0
  obtain ⟨field, rest, rfl⟩ := List.exists_cons_of_ne_nil filled
  have reads : ∀ other ∈ field :: rest, FlowReads 1 other.2 := fun other member =>
    flowReads_of_storable (each other member) 1
  have begins := write_map 0 field rest []
  rw [List.append_nil] at begins
  have gives : Gives (halved (.map ((field :: rest).map Value.ofField))) []
      (flowNode (4 * (Json.write 0 (.map ((field :: rest).map Value.ofField))).length + 7)
        (.start (Json.write 0 (.map ((field :: rest).map Value.ofField))))) :=
    gives_map names distinct reads (Nat.le_add_right _ 7) (List.append_nil _).symm
  obtain ⟨node, after, read, stands, left⟩ := gives
  rw [Json.render] at printed ⊢
  rw [begins] at printed read ⊢
  exact read_of_blockNode printed (by decide) rfl (blockNode_brace read left) stands (next_end left)

end Yaml

/-! ### Results -/

theorem Text.leavesLabels_halved : LeavesLabels Text.halved where
  cardinality := by rintro (_ | _ | _ | _) <;> decide
  origin := by rintro (_ | _ | _) <;> decide
  severity := by rintro (_ | _) <;> decide
  empty := fun _ => Text.halved_eq_nil_iff

namespace Result

variable {result : Result}

/-- Each text of the result in units of sixteen bits. -/
def halved (result : Result) : Result :=
  result.mapTexts Text.halved

theorem halved_eq_self_iff :
    result.halved = result ↔ ∀ s ∈ result.texts, ∀ c ∈ s, Text.codeOf c < 0x10000 := by
  rw [halved, mapTexts_eq_self_iff]
  simp only [Text.halved_eq_self_iff]

theorem IsStorable.halved (storable : result.IsStorable) : result.halved.IsStorable where
  short := by
    intro diagnostic member index found
    obtain ⟨original, inside, rfl⟩ := List.mem_map.mp member
    exact storable.short original inside index found
  named := by
    intro relationship member
    obtain ⟨original, inside, rfl⟩ := List.mem_map.mp member
    have named := storable.named original inside
    intro unnamed
    obtain ⟨name, through, empty⟩ := Option.map_eq_some_iff.mp unnamed
    rw [Text.halved_eq_nil_iff] at empty
    exact named (empty ▸ through)

/-- A result that is written as JSON loads with its texts in units of sixteen bits. -/
theorem load_json (storable : result.IsStorable) (path : Text) :
    Stored.Result.load path (Format.render .json result.stored.encode) = .ok result.halved.stored := by
  have document := isDocument storable.short
  have read := Yaml.read_json result.textFields_ne_nil document.names document.texts_distinct document.texts_each
  have printed := Yaml.isPrinted_write (.map document.names document.texts_distinct document.texts_each) 0
  rw [← encode_eq] at read printed
  have encoded : Yaml.halved result.stored.encode = result.halved.stored.encode :=
    (encode_mapTexts Text.leavesLabels_halved result).symm
  rw [encoded] at read
  exact Stored.Result.load_of_read printed storable.halved.isWhole read path

/-- A result that is written as JSON loads as itself exactly if its texts fit into units of sixteen bits. -/
theorem load_json_iff (storable : result.IsStorable) (path : Text) :
    Stored.Result.load path (Format.render .json result.stored.encode) = .ok result.stored ↔
      ∀ s ∈ result.texts, ∀ c ∈ s, Text.codeOf c < 0x10000 := by
  rw [load_json storable path, ← halved_eq_self_iff]
  exact ⟨fun same => stored_injective (Except.ok.inj same), fun same => congrArg (Except.ok ∘ stored) same⟩

end Result

end Schemata
