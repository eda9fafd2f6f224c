import Schemata.Inference.Links
import Schemata.Proofs.Ddl.TableBody
import Mathlib.Data.List.Forall2
import Mathlib.Data.Option.Basic

/-!
The three sources of relationships, said without the passes: which pairs of columns a foreign key
declares, which a junction table joins, and which the name of a column suggests.
-/

namespace Schemata

abbrev LinkKey := ColumnReference × ColumnReference

namespace Constraint

/-- The key relates a local column to the referenced column in its place, and to the first one where
there is none in its place. -/
def Pairs (foreignKey : Constraint) (column referenced : Text) : Prop :=
  ∃ index : Nat, foreignKey.columns[index]? = some column ∧
    foreignKey.referencedColumns[index]?.or foreignKey.referencedColumns.head? = some referenced

theorem mem_columnPairs {foreignKey : Constraint} {column referenced : Text} :
    (column, referenced) ∈ foreignKey.columnPairs ↔ foreignKey.Pairs column referenced := by
  unfold columnPairs Pairs
  cases columns : foreignKey.referencedColumns with
  | nil => simp
  | cons first others =>
      simp only [List.mem_map, Prod.exists, Prod.mk.injEq, List.mem_zipIdx_iff_getElem?]
      constructor
      · rintro ⟨_, index, found, rfl, rfl⟩
        exact ⟨index, found, by cases (first :: others)[index]? <;> rfl⟩
      · rintro ⟨index, found, paired⟩
        refine ⟨column, index, found, rfl, ?_⟩
        cases other : (first :: others)[index]? <;> simpa [other] using paired

/-- The end of a junction that a foreign key leads to: its first referenced column. -/
def LeadsTo (foreignKey : Constraint) (reference : ColumnReference) : Prop :=
  ∃ column others, foreignKey.referencedColumns = column :: others ∧
    reference = ⟨foreignKey.referencedTable.getD [], column⟩

theorem junctionEnd_eq_some {foreignKey : Constraint} {reference : ColumnReference} :
    junctionEnd foreignKey = some reference ↔ foreignKey.LeadsTo reference := by
  unfold junctionEnd LeadsTo
  cases foreignKey.referencedColumns with
  | nil => simp
  | cons column others => simp [eq_comm]

end Constraint

namespace TableMetadata

/-- A junction table joins the ends of its two foreign keys, in both directions if asked to. -/
def Joins (mode : ManyToManyMode) (metadata : TableMetadata) (key : LinkKey) : Prop :=
  ∃ first second left right, metadata.foreignKeys = [first, second] ∧
    first.LeadsTo left ∧ second.LeadsTo right ∧
    (key = (left, right) ∨ mode = .bidirectional ∧ key = (right, left))

end TableMetadata

namespace Registry

/-- A table outside the junctions has a foreign key that relates the columns. -/
def Declares (registry : Registry) (junctions : List Text) (key : LinkKey) : Prop :=
  ∃ metadata ∈ registry.tables, metadata.name ∉ junctions ∧
    ∃ foreignKey ∈ metadata.foreignKeys, ∃ column referenced, foreignKey.Pairs column referenced ∧
      key = (⟨metadata.name, column⟩, ⟨foreignKey.referencedTable.getD [], referenced⟩)

/-- The target belongs to the primary key of its table, and the source is a key by itself. -/
def KeyToKey (registry : Registry) (key : LinkKey) : Prop :=
  (∃ metadata primaryKey, registry.get? key.2.table = some metadata ∧
    metadata.primaryKey? = some primaryKey ∧ Text.lower key.2.column ∈ primaryKey.columns) ∧
  (∃ metadata, registry.get? key.1.table = some metadata ∧
    ∃ constraint ∈ metadata.constraints,
      (constraint.kind = .primaryKey ∨ constraint.kind = .unique) ∧
        constraint.columns = [Text.lower key.1.column])

theorem isPrimaryKeyColumn_iff {registry : Registry} {table column : Text} :
    registry.isPrimaryKeyColumn table column = true ↔
      ∃ metadata primaryKey, registry.get? table = some metadata ∧
        metadata.primaryKey? = some primaryKey ∧ Text.lower column ∈ primaryKey.columns := by
  unfold isPrimaryKeyColumn TableMetadata.primaryKeyColumns
  cases registry.get? table with
  | none => simp
  | some metadata => cases found : metadata.primaryKey? <;> simp [found]

theorem hasSingleColumnKey_iff {registry : Registry} {table column : Text} :
    registry.hasSingleColumnKey table column = true ↔
      ∃ metadata, registry.get? table = some metadata ∧ ∃ constraint ∈ metadata.constraints,
        (constraint.kind = .primaryKey ∨ constraint.kind = .unique) ∧
          constraint.columns = [Text.lower column] := by
  unfold hasSingleColumnKey
  cases registry.get? table <;> simp

/-- The cardinality of a relationship between columns: one to one from key to key, and many to one
otherwise. -/
def Classifies (registry : Registry) (key : LinkKey) (cardinality : Cardinality) : Prop :=
  registry.KeyToKey key ∧ cardinality = .oneToOne ∨ ¬ registry.KeyToKey key ∧ cardinality = .manyToOne

theorem cardinality_classifies (registry : Registry) (source target : ColumnReference) :
    registry.Classifies (source, target) (registry.cardinality source target) := by
  unfold Classifies KeyToKey cardinality
  simp only [← isPrimaryKeyColumn_iff, ← hasSingleColumnKey_iff, ← Bool.and_eq_true]
  split <;> simp [*]

end Registry

namespace Reader

/-- A keyword is read off a text that begins with its letters in either case. -/
theorem accepts_keyword {letters text : Text} :
    (keyword letters).accepts text = true ↔
      ∃ written rest, text = written ++ rest ∧
        List.Forall₂ (fun letter c => Text.sameLetter letter c = true) letters written := by
  induction letters generalizing text with
  | nil => exact ⟨fun _ => ⟨[], text, rfl, .nil⟩, fun _ => rfl⟩
  | cons letter letters ih =>
      cases text with
      | nil =>
          have refused : (keyword (letter :: letters)).accepts [] = false := rfl
          rw [refused]
          refine ⟨fun accepted => absurd accepted Bool.false_ne_true, ?_⟩
          rintro ⟨written, rest, empty, same | _⟩
          simp at empty
      | cons c rest =>
          have step : (keyword (letter :: letters)).accepts (c :: rest) =
              (Text.sameLetter letter c && (keyword letters).accepts rest) := by
            cases same : Text.sameLetter letter c <;>
              simp [accepts, first, ways, keyword, bind_ways, char, same]
          rw [step, Bool.and_eq_true, ih]
          constructor
          · rintro ⟨same, written, left, rfl, letters⟩
            exact ⟨c :: written, left, rfl, .cons same letters⟩
          · rintro ⟨_, left, joined, same | ⟨same, letters⟩⟩
            obtain ⟨rfl, rfl⟩ := List.cons.inj joined
            exact ⟨same, _, left, rfl, letters⟩

end Reader

/-- The name is a stem followed by `_id` in either case, and possibly a line end. The stem is on one
line and not empty. -/
def HasIdStem (name stem : Text) : Prop :=
  stem ≠ [] ∧ '\n' ∉ stem ∧ ∃ written ending, name = stem ++ written ++ ending ∧
    List.Forall₂ (fun letter c => Text.sameLetter letter c = true) ['_', 'i', 'd'] written ∧
    (ending = [] ∨ ending = ['\n'])

def lineOf (name : Text) : Text :=
  if name.getLast? = some '\n' then name.dropLast else name

theorem eq_lineOf_append (name : Text) :
    ∃ ending, name = lineOf name ++ ending ∧ (ending = [] ∨ ending = ['\n']) := by
  unfold lineOf
  split
  · rename_i ends
    exact ⟨['\n'], (List.dropLast_append_getLast? '\n' ends).symm, Or.inr rfl⟩
  · exact ⟨[], (List.append_nil name).symm, Or.inl rfl⟩

theorem lineOf_append {text ending : Text} (line : '\n' ∉ text)
    (ends : ending = [] ∨ ending = ['\n']) : lineOf (text ++ ending) = text := by
  rcases ends with rfl | rfl
  · rw [List.append_nil, lineOf, if_neg]
    exact fun last => line (List.mem_of_getLast? last)
  · simp [lineOf]

theorem not_mem_of_sameLetters {written : Text}
    (letters : List.Forall₂ (fun letter c => Text.sameLetter letter c = true) ['_', 'i', 'd'] written) :
    '\n' ∉ written := by
  obtain ⟨line, _, lineSame, later, rfl⟩ := List.forall₂_cons_left_iff.mp letters
  obtain ⟨i, _, iSame, last, rfl⟩ := List.forall₂_cons_left_iff.mp later
  obtain ⟨d, _, dSame, none, rfl⟩ := List.forall₂_cons_left_iff.mp last
  rw [List.forall₂_nil_left_iff] at none
  subst none
  have mark : Text.sameLetter '_' '\n' = false := by decide
  have first : Text.sameLetter 'i' '\n' = false := by decide
  have second : Text.sameLetter 'd' '\n' = false := by decide
  intro inside
  simp only [List.mem_cons, List.not_mem_nil, or_false] at inside
  rcases inside with rfl | rfl | rfl
  · rw [mark] at lineSame
    cases lineSame
  · rw [first] at iSame
    cases iSame
  · rw [second] at dSame
    cases dSame

/-- A line whose last three characters are read as `_id` is a stem followed by just these. -/
theorem exists_letters_of_accepts {line : Text} (nonempty : line.take (line.length - 3) ≠ [])
    (accepted : (Reader.keyword ['_', 'i', 'd']).accepts (line.drop (line.length - 3)) = true) :
    ∃ written, line.take (line.length - 3) ++ written = line ∧
      List.Forall₂ (fun letter c => Text.sameLetter letter c = true) ['_', 'i', 'd'] written := by
  obtain ⟨written, rest, split, letters⟩ := Reader.accepts_keyword.mp accepted
  have width : written.length = 3 := letters.length_eq.symm
  have long : 3 < line.length := by
    by_contra short
    exact nonempty (by rw [Nat.sub_eq_zero_of_le (Nat.le_of_not_lt short), List.take_zero])
  -- The keyword takes three characters, which is all that was left for it.
  have tail : rest = [] := by
    have lengths := congrArg List.length split
    rw [List.length_drop, List.length_append, width] at lengths
    exact List.eq_nil_of_length_eq_zero (by omega)
  refine ⟨written, ?_, letters⟩
  rw [tail, List.append_nil] at split
  rw [← split, List.take_append_drop]

theorem idStem_eq_some {name stem : Text} : idStem name = some stem ↔ HasIdStem name stem := by
  change (let line := lineOf name
    let stem := line.take (line.length - 3)
    if stem.isEmpty || line.contains '\n' then none
    else if (Reader.keyword ['_', 'i', 'd']).accepts (line.drop (line.length - 3)) then some stem
    else none) = some stem ↔ _
  dsimp only
  constructor
  · intro found
    split at found
    · cases found
    · rename_i plain
      simp only [Bool.or_eq_true, List.isEmpty_iff, List.contains_eq_mem, decide_eq_true_eq,
        not_or] at plain
      obtain ⟨nonempty, line⟩ := plain
      split at found
      · rename_i accepted
        obtain ⟨ending, whole, ends⟩ := eq_lineOf_append name
        obtain ⟨written, split, letters⟩ := exists_letters_of_accepts nonempty accepted
        cases found
        refine ⟨nonempty, fun inside => line (List.mem_of_mem_take inside), written, ending, ?_,
          letters, ends⟩
        rw [split, ← whole]
      · cases found
  · rintro ⟨nonempty, line, written, ending, rfl, letters, ends⟩
    have width : written.length = 3 := letters.length_eq.symm
    have plain : '\n' ∉ stem ++ written := by
      simpa [line] using not_mem_of_sameLetters letters
    have accepted : (Reader.keyword ['_', 'i', 'd']).accepts written = true :=
      Reader.accepts_keyword.mpr ⟨written, [], (List.append_nil written).symm, letters⟩
    rw [lineOf_append plain ends, List.length_append, width, Nat.add_sub_cancel, List.take_left,
      List.drop_left, if_neg, if_pos accepted]
    simpa [nonempty] using plain

namespace Config

/-- A variant makes the table name out of the stem. -/
def Names (config : Config) (stem table : Text) : Prop :=
  table ≠ [] ∧ ∃ variant ∈ config.nameVariants ++ config.extraNameVariants,
    variant.apply (Text.lower stem) = table

theorem mem_addedName {found : List Text} {name table : Text} :
    table ∈ (if name.isEmpty || found.contains name then found else found ++ [name]) ↔
      table ∈ found ∨ table ≠ [] ∧ name = table := by
  split
  · rename_i passed
    simp only [Bool.or_eq_true, List.isEmpty_iff, List.contains_eq_mem, decide_eq_true_eq] at passed
    refine ⟨Or.inl, ?_⟩
    rintro (old | ⟨nonempty, rfl⟩)
    · exact old
    · exact passed.resolve_left nonempty
  · rename_i fresh
    simp only [Bool.or_eq_true, List.isEmpty_iff, not_or] at fresh
    rw [List.mem_append, List.mem_singleton]
    refine or_congr_right ⟨?_, fun named => named.2.symm⟩
    rintro rfl
    exact ⟨fresh.1, rfl⟩

theorem mem_candidatesOf {variants : List NameVariant} {stem table : Text} :
    table ∈ candidatesOf variants stem ↔
      table ≠ [] ∧ ∃ variant ∈ variants, variant.apply stem = table := by
  suffices general : ∀ found : List Text,
      table ∈ variants.foldl (fun found variant =>
        let name := variant.apply stem
        if name.isEmpty || found.contains name then found else found ++ [name]) found ↔
      table ∈ found ∨ table ≠ [] ∧ ∃ variant ∈ variants, variant.apply stem = table by
    simpa [candidatesOf] using general []
  induction variants with
  | nil => simp
  | cons variant rest ih =>
      intro found
      rw [List.foldl_cons, ih, mem_addedName, or_assoc, ← and_or_left]
      simp only [List.mem_cons, exists_eq_or_imp]

theorem mem_candidateTables {config : Config} {stem table : Text} :
    table ∈ config.candidateTables stem ↔ config.Names stem table :=
  mem_candidatesOf

end Config

namespace Registry

/-- A column without a reference is called after another table, whose target column has a type that
fits. -/
def Suggests (registry : Registry) (config : Config) (key : LinkKey) : Prop :=
  ∃ metadata ∈ registry.tables, ∃ column ∈ metadata.table.columns, column.foreignKey = none ∧
    ∃ stem, HasIdStem column.name stem ∧
      ∃ candidate, config.Names stem candidate ∧ candidate ≠ metadata.name ∧
        ∃ found, registry.get? candidate = some found ∧
          ∃ target, found.table.column? config.targetColumn = some target ∧
            areTypesCompatible column.dataType target.dataType = true ∧
            key = (⟨metadata.name, column.name⟩, ⟨found.name, target.name⟩)

end Registry

def declaredLink (registry : Registry) (key : LinkKey) : Relationship :=
  { source := key.1, target := key.2, cardinality := registry.cardinality key.1 key.2 }

theorem mem_directLinks {registry : Registry} {junctions : List Text} {link : Relationship} :
    link ∈ directLinks registry junctions ↔
      registry.Declares junctions link.key ∧ link = declaredLink registry link.key := by
  unfold directLinks foreignKeyLinks Registry.Declares
  simp only [List.mem_flatMap, List.mem_filter, List.mem_map, Bool.not_eq_true',
    List.contains_eq_mem, decide_eq_false_iff_not, Prod.exists, Constraint.mem_columnPairs]
  constructor
  · rintro ⟨metadata, ⟨registered, outside⟩, foreignKey, declared, column, referenced, pairs, rfl⟩
    exact ⟨⟨metadata, registered, outside, foreignKey, declared, column, referenced, pairs, rfl⟩, rfl⟩
  · rintro ⟨⟨metadata, registered, outside, foreignKey, declared, column, referenced, pairs, same⟩, whole⟩
    refine ⟨metadata, ⟨registered, outside⟩, foreignKey, declared, column, referenced, pairs, ?_⟩
    rw [whole, same]
    rfl

def joinedLink (metadata : TableMetadata) (key : LinkKey) : Relationship :=
  { source := key.1, target := key.2, cardinality := .manyToMany,
    junctionTable := some metadata.name, origin := .junction }

theorem mem_junctionLinksOf {mode : ManyToManyMode} {metadata : TableMetadata} {link : Relationship} :
    link ∈ junctionLinksOf mode metadata ↔
      metadata.Joins mode link.key ∧ link = joinedLink metadata link.key := by
  unfold TableMetadata.Joins
  simp only [← Constraint.junctionEnd_eq_some]
  constructor
  · intro member
    unfold junctionLinksOf at member
    split at member
    · rename_i first second keys
      split at member
      · rename_i left right leftEnd rightEnd
        cases mode with
        | single =>
            obtain rfl := List.mem_singleton.mp member
            exact ⟨⟨first, second, left, right, keys, leftEnd, rightEnd, Or.inl rfl⟩, rfl⟩
        | bidirectional =>
            rcases List.mem_pair.mp member with rfl | rfl
            · exact ⟨⟨first, second, left, right, keys, leftEnd, rightEnd, Or.inl rfl⟩, rfl⟩
            · exact ⟨⟨first, second, left, right, keys, leftEnd, rightEnd, Or.inr ⟨rfl, rfl⟩⟩, rfl⟩
      · simp at member
    · simp at member
  · rintro ⟨⟨first, second, left, right, keys, leftEnd, rightEnd, ends⟩, whole⟩
    rw [whole]
    simp only [junctionLinksOf, keys, leftEnd, rightEnd]
    rcases ends with same | ⟨rfl, same⟩
    · rw [same]
      cases mode
      · exact List.mem_singleton.mpr rfl
      · exact List.mem_pair.mpr (Or.inl rfl)
    · rw [same]
      exact List.mem_pair.mpr (Or.inr rfl)

def Config.isJunctionTable (config : Config) (metadata : TableMetadata) : Bool :=
  let linked := metadata.foreignKeys.flatMap Constraint.columns
  let others := metadata.table.columns.filter fun column => !linked.contains column.name
  let extra := others.filter fun column => !config.isAuditColumn column.name
  metadata.foreignKeys.length == 2 && keysFormPrimaryKey metadata &&
    decide ((extra.length : Int) ≤ config.maxExtraColumns)

theorem filterM_of_ok {α : Type} {test : α → Except Ddl.Fault Bool} {value : α → Bool}
    (total : ∀ a, test a = .ok (value a)) (list : List α) :
    list.filterM test = .ok (list.filter value) := by
  suffices general : ∀ kept : List α,
      List.filterAuxM test list kept = .ok ((list.filter value).reverse ++ kept) by
    simp [List.filterM, general, bind, Except.bind, pure, Except.pure]
  induction list with
  | nil => exact fun kept => rfl
  | cons a rest ih =>
      intro kept
      rw [List.filterAuxM, total]
      change List.filterAuxM test rest (cond (value a) (a :: kept) kept) = _
      rw [ih]
      cases fits : value a <;> simp [fits]

theorem isJunction_rules (config : Config) (metadata : TableMetadata) :
    isJunction config.rules config.maxExtraColumns metadata = .ok (config.isJunctionTable metadata) := by
  have audited : ∀ column : Column,
      (do return !(← config.rules.isAuditColumn column.name) : Except Ddl.Fault Bool) =
        .ok (!config.isAuditColumn column.name) := fun _ => rfl
  unfold isJunction Config.isJunctionTable
  dsimp only
  rw [filterM_of_ok audited]
  by_cases two : metadata.foreignKeys.length = 2
  · cases keysFormPrimaryKey metadata <;> simp [two, bind, Except.bind, pure, Except.pure]
  · simp [two, pure, Except.pure]

theorem junctionTables_rules (config : Config) (registry : Registry) :
    junctionTables config.rules config.maxExtraColumns registry =
      .ok ((registry.tables.filter config.isJunctionTable).map TableMetadata.name) := by
  rw [junctionTables, filterM_of_ok (isJunction_rules config)]
  rfl

def suggestedLink (registry : Registry) (key : LinkKey) : Relationship :=
  { source := key.1, target := key.2, cardinality := registry.cardinality key.1 key.2,
    origin := .convention }

theorem conventionLink_eq_some {registry : Registry} {targetColumn : Text} {metadata : TableMetadata}
    {column : Column} {candidate : Text} {link : Relationship} :
    conventionLink registry targetColumn metadata column candidate = some link ↔
      candidate ≠ metadata.name ∧ ∃ found, registry.get? candidate = some found ∧
        ∃ target, found.table.column? targetColumn = some target ∧
          areTypesCompatible column.dataType target.dataType = true ∧
          link = suggestedLink registry (⟨metadata.name, column.name⟩, ⟨found.name, target.name⟩) := by
  simp only [conventionLink, guard, bind, Option.bind_eq_some_iff, pure]
  constructor
  · rintro ⟨_, other, found, registered, target, present, _, fits, made⟩
    split at other
    · split at fits
      · cases made
        exact ⟨‹_›, found, registered, target, present, ‹_›, rfl⟩
      · cases fits
    · cases other
  · rintro ⟨other, found, registered, target, present, fits, rfl⟩
    exact ⟨(), if_pos other, found, registered, target, present, (), if_pos fits, rfl⟩

def Registry.columns (registry : Registry) : List (TableMetadata × Column) :=
  registry.tables.flatMap fun metadata => metadata.table.columns.map fun column => (metadata, column)

theorem Registry.mem_columns {registry : Registry} {metadata : TableMetadata} {column : Column} :
    (metadata, column) ∈ registry.columns ↔
      metadata ∈ registry.tables ∧ column ∈ metadata.table.columns := by
  simp only [columns, List.mem_flatMap, List.mem_map, Prod.mk.injEq]
  constructor
  · rintro ⟨_, registered, _, present, rfl, rfl⟩
    exact ⟨registered, present⟩
  · rintro ⟨registered, present⟩
    exact ⟨metadata, registered, column, present, rfl, rfl⟩

/-- The relationships that the name of a column suggests, under plain options. -/
def suggestedLinks (registry : Registry) (config : Config) (place : TableMetadata × Column) :
    List Relationship :=
  if place.2.foreignKey.isSome then []
  else
    match idStem place.2.name with
    | none => []
    | some stem =>
        (config.candidateTables stem).filterMap
          (conventionLink registry config.targetColumn place.1 place.2)

theorem conventionLinksOf_rules (registry : Registry) (config : Config)
    (place : TableMetadata × Column) :
    conventionLinksOf config.rules registry config.targetColumn place =
      .ok (suggestedLinks registry config place) := by
  obtain ⟨metadata, column⟩ := place
  unfold conventionLinksOf suggestedLinks
  dsimp only
  split
  · rfl
  · cases idStem column.name <;> rfl

/-- Plain options never break down. -/
theorem conventionLinks_rules (registry : Registry) (config : Config) :
    conventionLinks config.rules registry config.targetColumn =
      (registry.columns.flatMap (suggestedLinks registry config), none) := by
  unfold conventionLinks
  dsimp only
  rw [Ddl.collect_of_ok (conventionLinksOf_rules registry config)]
  rfl

theorem mem_suggestedLinks {registry : Registry} {config : Config} {link : Relationship} :
    link ∈ registry.columns.flatMap (suggestedLinks registry config) ↔
      registry.Suggests config link.key ∧ link = suggestedLink registry link.key := by
  rw [List.mem_flatMap]
  constructor
  · rintro ⟨⟨metadata, column⟩, place, suggested⟩
    obtain ⟨registered, present⟩ := Registry.mem_columns.mp place
    unfold suggestedLinks at suggested
    split at suggested
    · simp at suggested
    · rename_i free
      split at suggested
      · simp at suggested
      · rename_i stem stemmed
        obtain ⟨candidate, named, made⟩ := List.mem_filterMap.mp suggested
        obtain ⟨other, found, lookup, target, targeted, fits, rfl⟩ := conventionLink_eq_some.mp made
        have free : column.foreignKey = none := by simpa using free
        exact ⟨⟨metadata, registered, column, present, free, stem, idStem_eq_some.mp stemmed,
          candidate, Config.mem_candidateTables.mp named, other, found, lookup, target, targeted,
          fits, rfl⟩, rfl⟩
  · rintro ⟨⟨metadata, registered, column, present, free, stem, stemmed, candidate, named, other,
      found, lookup, target, targeted, fits, same⟩, whole⟩
    refine ⟨(metadata, column), Registry.mem_columns.mpr ⟨registered, present⟩, ?_⟩
    simp only [suggestedLinks, free, Option.isSome_none, Bool.false_eq_true, if_false,
      idStem_eq_some.mpr stemmed, List.mem_filterMap]
    refine ⟨candidate, Config.mem_candidateTables.mpr named, ?_⟩
    exact conventionLink_eq_some.mpr
      ⟨other, found, lookup, target, targeted, fits, by rw [whole, same]⟩

end Schemata
