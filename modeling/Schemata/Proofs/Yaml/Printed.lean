import Schemata.Proofs.Yaml.Block

/-!
The characters that documents are written with: printed ones and line feeds, whatever the texts in them
hold.
-/

namespace Schemata.Yaml

/-- Every character can be shown as it is. -/
def IsPrinted (written : Text) : Prop :=
  ∀ c ∈ written, needsEscape c = false

instance (written : Text) : Decidable (IsPrinted written) :=
  List.decidableBAll (fun c => needsEscape c = false) written

@[simp] theorem isPrinted_nil : IsPrinted [] := fun _ member => nomatch member

@[simp] theorem isPrinted_cons {c : Char} {written : Text} :
    IsPrinted (c :: written) ↔ needsEscape c = false ∧ IsPrinted written :=
  List.forall_mem_cons

@[simp] theorem isPrinted_append {one other : Text} :
    IsPrinted (one ++ other) ↔ IsPrinted one ∧ IsPrinted other :=
  List.forall_mem_append

@[simp] theorem isPrinted_blanks (count : Nat) : IsPrinted (blanks count) := by
  intro c member
  rw [List.eq_of_mem_replicate member]
  decide

@[simp] theorem isPrinted_lineAt (indent : Nat) : IsPrinted (lineAt indent) :=
  isPrinted_cons.mpr ⟨by decide, isPrinted_blanks indent⟩

theorem isPrinted_letters {name : Text} (letters : ∀ c ∈ name, isNameChar c = true) : IsPrinted name :=
  fun c member => (needsEscape_of_isNameChar (letters c member)).1

/-! ### Scalars -/

theorem isPrinted_plainFrom {s : Text} (shown : IsPrinted s) (indent column : Nat) (afterBlank : Bool) :
    IsPrinted (plainFrom indent column afterBlank s) := by
  induction s generalizing column afterBlank with
  | nil => exact isPrinted_nil
  | cons c rest ih =>
      obtain ⟨first, others⟩ := isPrinted_cons.mp shown
      rw [plainFrom]
      split
      · simp [ih others]
      · simp [first, ih others]

theorem isPrinted_singleFrom {s : Text} (shown : IsPrinted s) (indent column : Nat) (before : Option Char) :
    IsPrinted (singleFrom indent column before s) := by
  induction s generalizing column before with
  | nil => exact isPrinted_nil
  | cons c rest ih =>
      obtain ⟨first, others⟩ := isPrinted_cons.mp shown
      have quotes : IsPrinted "''".toList := by decide
      have feed : IsPrinted ['\n'] := by decide
      rw [singleFrom]
      split
      · refine isPrinted_append.mpr
          ⟨isPrinted_append.mpr ⟨?_, isPrinted_cons.mpr ⟨by decide, ?_⟩⟩, ih others _ _⟩
        · split
          · exact isPrinted_nil
          · exact feed
        · split
          · exact isPrinted_nil
          · exact isPrinted_blanks indent
      · split
        · exact isPrinted_append.mpr ⟨quotes, ih others _ _⟩
        · split
          · simp [ih others]
          · simp [first, ih others]

theorem SpellsHex.isPrinted {digit : Nat → Char} {digits : Nat → Nat → Text} (spells : SpellsHex digit digits)
    (count n : Nat) : IsPrinted (digits count n) := by
  intro c member
  obtain ⟨d, small, rfl⟩ := spells.mem_digits member
  exact (spells.checked d small).2.2

theorem isPrinted_escape (n : Nat) : IsPrinted (escape n) := by
  have checked : ∀ entry ∈ letterEscapes, needsEscape entry.2 = false := by decide
  have marks : needsEscape 'x' = false ∧ needsEscape 'u' = false ∧ needsEscape 'U' = false := by decide
  refine isPrinted_cons.mpr ⟨by decide, ?_⟩
  cases found : letterEscapes.lookup n with
  | some letter =>
      obtain ⟨before, after, split, _⟩ := List.lookup_eq_some_iff.mp found
      have member : (n, letter) ∈ letterEscapes := by simp [split]
      simp [checked _ member]
  | none =>
      dsimp only
      split
      · simp [marks, spellsHex_upperHex.isPrinted]
      · split <;> simp [marks, spellsHex_upperHex.isPrinted]

theorem isPrinted_doubleFrom (s : Text) (indent column : Nat) (fresh first : Bool) :
    IsPrinted (doubleFrom indent column fresh first s) := by
  induction s generalizing column fresh first with
  | nil => exact isPrinted_nil
  | cons c rest ih =>
      have backslash : needsEscape '\\' = false := by decide
      have shown (unescaped : ¬isEscaped c = true) : needsEscape c = false :=
        (ne_of_not_isEscaped (Bool.eq_false_iff.mpr unescaped)).1
      rw [doubleFrom]
      dsimp only
      split
      · split
        · split <;> simp [isPrinted_escape, backslash, ih]
        · simp [isPrinted_escape, ih]
      · rename_i unescaped
        split
        · split <;> simp [shown unescaped, backslash, ih]
        · simp [shown unescaped, ih]

theorem isPrinted_scalar (indent column : Nat) (s : Text) : IsPrinted (scalar indent column s) := by
  have marks : needsEscape '"' = false ∧ needsEscape '\'' = false := by decide
  have shown (unescaped : s.any needsEscape = false) : IsPrinted s := fun c member => by
    simpa using List.any_eq_false.mp unescaped c member
  unfold scalar
  cases style : styleOf s with
  | plain =>
      have plain := mayBePlain_of_styleOf style
      simp only [mayBePlain, Bool.and_eq_true, Bool.not_eq_true'] at plain
      obtain ⟨⟨⟨⟨⟨⟨_, unescaped⟩, _⟩, _⟩, _⟩, _⟩, _⟩ := plain
      exact isPrinted_plainFrom (shown unescaped) _ _ _
  | singleQuoted =>
      have single := mayBeSingleQuoted_of_styleOf style
      simp only [mayBeSingleQuoted, Bool.and_eq_true, Bool.not_eq_true'] at single
      simp [marks, isPrinted_singleFrom (shown single.1.1)]
  | doubleQuoted => simp [marks, isPrinted_doubleFrom]

/-! ### Values -/

variable {depth : Nat} {value : Value} {written : Text}

theorem isPrinted_inline {indent column : Nat} (storable : value.Storable depth)
    (inLine : inline indent column value = some written) : IsPrinted written := by
  cases storable with
  | null =>
      cases inLine
      decide
  | bool b =>
      cases inLine
      cases b <;> decide
  | int short =>
      rename_i n
      cases inLine
      rw [integerText_natCast]
      exact isPrinted_letters (isNameChar_of_word true n).2.2
  | text s =>
      cases inLine
      exact isPrinted_scalar _ _ s
  | list each =>
      rename_i items
      cases items with
      | nil =>
          cases inLine
          decide
      | cons item rest => cases inLine
  | map names distinct each =>
      rename_i fields
      cases fields with
      | nil =>
          cases inLine
          decide
      | cons field rest => cases inLine

theorem isPrinted_writeItems {items : List Value}
    (each : ∀ item ∈ items, ∀ column, IsPrinted (writeItem column item)) (column : Nat) (first : Bool) :
    IsPrinted (writeItems column first items) := by
  induction items generalizing first with
  | nil =>
      rw [writeItems]
      exact isPrinted_nil
  | cons value rest ih =>
      obtain ⟨head, others⟩ := List.forall_mem_cons.mp each
      have printed : IsPrinted (writeItems column true (value :: rest)) := by
        have marks : needsEscape '-' = false ∧ needsEscape ' ' = false := by decide
        rw [writeItems_first]
        simp [marks, head, ih others]
      cases first with
      | true => exact printed
      | false =>
          rw [writeItems_further]
          simp [printed]

theorem isPrinted_writeEntries {fields : List (Text × Value)} (names : ∀ field ∈ fields, IsName field.1)
    (each : ∀ field ∈ fields, ∀ column place, IsPrinted (writeField column place field.2)) (column : Nat)
    (first : Bool) : IsPrinted (writeEntries column first (fields.map Value.ofField)) := by
  induction fields generalizing first with
  | nil =>
      rw [List.map_nil, writeEntries]
      exact isPrinted_nil
  | cons field rest ih =>
      obtain ⟨named, otherNames⟩ := List.forall_mem_cons.mp names
      obtain ⟨head, others⟩ := List.forall_mem_cons.mp each
      have printed : IsPrinted (writeEntries column true ((field :: rest).map Value.ofField)) := by
        have colon : needsEscape ':' = false := by decide
        rw [writeEntries_first column named]
        simp [colon, isPrinted_letters named.letters, head, ih otherNames others]
      cases first with
      | true => exact printed
      | false =>
          rw [List.map_cons, writeEntries_further, ← List.map_cons]
          exact isPrinted_append.mpr ⟨isPrinted_blanks column, printed⟩

theorem isPrinted_inLine (storable : value.Storable depth)
    (inLine : ∀ indent column, ∃ written, inline indent column value = some written) :
    (∀ column, IsPrinted (writeItem column value)) ∧
      ∀ column place, IsPrinted (writeField column place value) := by
  have ends : needsEscape '\n' = false ∧ needsEscape ' ' = false := by decide
  refine ⟨fun column => ?_, fun column place => ?_⟩
  · obtain ⟨written, inLine⟩ := inLine (column + 2) (column + 2)
    rw [writeItem_inline inLine]
    simp [ends, isPrinted_inline storable inLine]
  · obtain ⟨written, inLine⟩ := inLine (column + 2) place
    rw [writeField_inline inLine]
    simp [ends, isPrinted_inline storable inLine]

theorem isPrinted_of_storable (storable : value.Storable depth) :
    (∀ column, IsPrinted (writeItem column value)) ∧
      ∀ column place, IsPrinted (writeField column place value) := by
  have feed : needsEscape '\n' = false := by decide
  induction storable with
  | null => exact isPrinted_inLine (.null : Value.Storable 0 _) fun _ _ => ⟨_, rfl⟩
  | bool b => exact isPrinted_inLine (.bool b : Value.Storable 0 _) fun _ _ => ⟨_, rfl⟩
  | int short => exact isPrinted_inLine (.int short : Value.Storable 0 _) fun _ _ => ⟨_, rfl⟩
  | text s => exact isPrinted_inLine (.text s : Value.Storable 0 _) fun _ _ => ⟨_, rfl⟩
  | list each ih =>
      rename_i items
      have printed := isPrinted_writeItems fun item member => (ih item member).1
      cases items with
      | nil => exact isPrinted_inLine (.list each) fun _ _ => ⟨_, rfl⟩
      | cons item rest =>
          refine ⟨fun column => ?_, fun column place => ?_⟩
          · rw [writeItem]
            exact printed _ _
          · rw [writeField]
            simp [feed, printed]
  | map names distinct each ih =>
      rename_i fields
      have printed := isPrinted_writeEntries names fun field member => (ih field member).2
      cases fields with
      | nil => exact isPrinted_inLine (.map names distinct each) fun _ _ => ⟨_, rfl⟩
      | cons field rest =>
          refine ⟨fun column => ?_, fun column place => ?_⟩
          · rw [List.map_cons, writeItem]
            exact printed _ _
          · rw [List.map_cons, writeField, ← List.map_cons]
            exact isPrinted_append.mpr ⟨isPrinted_cons.mpr ⟨feed, isPrinted_blanks _⟩, printed _ _⟩

end Schemata.Yaml
