import Schemata.Proofs.Ddl.Signs
import Schemata.Proofs.Ddl.ColumnClauses
import Schemata.Proofs.Ddl.ColumnTypes
import Schemata.Proofs.Ddl.FirstWords
import Schemata.Proofs.Ddl.QuotedNames

/-!
A reference behind a column to a table and a column in quotes, and the same foreign key on its own. The
quotes do not protect what they hold from the searches of the inline reading: a parenthesis ends the list
of columns, apostrophes make literals, and keywords mark the column.
-/

namespace Schemata.Ddl

open Text Script Reader

variable {name type text : Text} {table column : QuotedName}

/-- A reference to a column of a table. -/
def referenceText (table column : QuotedName) : Text :=
  "REFERENCES".toList ++ ([' '] ++ (table.text ++ ([' '] ++ '(' :: (column.text ++ [')']))))

/-! ### Names that are read as they stand -/

/-- The list of the column, up to its first parenthesis that closes. -/
theorem exists_first_list (column : QuotedName) : ∃ listed left,
    parenthesized.first ('(' :: (column.text ++ [')'])) = some (listed, left) ∧
      columnList listed = if ')' ∈ column.inner then [] else [column.name] := by
  have other : column.mark ≠ ')' := column.of_mark (· ≠ ')') (by decide) (by decide)
  by_cases closed : ')' ∈ column.inner
  · obtain ⟨front, back, split, open'⟩ := List.eq_append_cons_of_mem closed
    have whole : '(' :: (column.text ++ [')']) = '(' :: (column.mark :: front ++ ')' :: (back ++ [column.mark, ')'])) := by
      simp [QuotedName.text, split]
    refine ⟨column.mark :: front, back ++ [column.mark, ')'], ?_, ?_⟩
    · rw [whole]
      exact first_parenthesized (forall_bne_iff.mpr (List.not_mem_cons_of_ne_of_not_mem (Ne.symm other) open')) _
    · rw [if_pos closed]
      exact column.columnList_open fun member => column.free (by rw [split]; exact List.mem_append_left _ member)
  · refine ⟨column.text, [], first_parenthesized (forall_bne_iff.mpr ?_) [], ?_⟩
    · simp [QuotedName.text, closed, Ne.symm other]
    · rw [if_neg closed, column.columnList_text]

theorem ends_table (table : QuotedName) (rest : Text) : Ends isBlank (table.text ++ rest) :=
  table.solid.first.append table.solid.some' rest

/-- No dot stands in front of a list. -/
theorem list_alone (rest : Text) : (trimLeft ([' '] ++ '(' :: rest)).head? ≠ some '.' := by
  rw [trimLeft_append (by decide) (ends_cons.mpr (by decide))]
  simp

theorem exists_first_referenceText (table column : QuotedName) : ∃ listed left,
    inlineReference.first (referenceText table column) = some ((table.text, listed), left) ∧
      columnList listed = if ')' ∈ column.inner then [] else [column.name] := by
  obtain ⟨listed, left, read, columns⟩ := exists_first_list column
  refine ⟨listed, left, ?_, columns⟩
  refine first_bind (first_bind (first_keyword ..) (first_blanks1 (by decide) (by decide) (ends_table table _))) ?_
  refine first_bind (first_captured (first_qualifiedName (table.first_name _) (list_alone _))) ?_
  refine first_bind (first_blanks (by decide) (ends_cons.mpr (by decide))) ?_
  refine first_bind (first_maybe read) ?_
  rw [Span.text_append]
  rfl

theorem references_referenceText (name type : Text) (table column : QuotedName) :
    (readColumnConstraints name type (' ' :: referenceText table column)).references =
      some (table.name, if ')' ∈ column.inner then [] else [column.name]) := by
  obtain ⟨listed, left, read, columns⟩ := exists_first_referenceText table column
  have found : inlineReference.find false (' ' :: referenceText table column) = some ((table.text, listed), left) :=
    (seeks_inlineReference.find_cons (by decide) (by decide) false _).trans (find_of_first read)
  rw [readColumnConstraints, found]
  exact congrArg some (Prod.ext table.normalizeIdentifier_text columns)

/-! ### Names with apostrophes -/

/-- What stands before the name of the table. -/
def referenceHead (table : QuotedName) : Text :=
  "REFERENCES".toList ++ [' ', table.mark]

/-- What stands behind the name of the table. -/
def referenceTail (table column : QuotedName) : Text :=
  [table.mark, ' ', '(', column.mark] ++ (column.inner ++ [column.mark, ')'])

theorem referenceText_eq (table column : QuotedName) :
    referenceText table column = referenceHead table ++ (table.inner ++ referenceTail table column) := by
  have tail : [' '] ++ (table.text ++ ([' '] ++ '(' :: (column.text ++ [')']))) =
      [' ', table.mark] ++ (table.inner ++ referenceTail table column) := by
    simp [QuotedName.text, referenceTail]
  unfold referenceText referenceHead
  rw [tail, List.append_assoc]

theorem QuotedName.mark_ne_apostrophe (quoted : QuotedName) : '\'' ≠ quoted.mark :=
  quoted.of_mark ('\'' ≠ ·) (by decide) (by decide)

theorem not_mem_referenceHead (table : QuotedName) : '\'' ∉ referenceHead table := by
  have outside : '\'' ∉ "REFERENCES".toList := by decide
  unfold referenceHead
  rw [List.mem_append, not_or]
  exact ⟨outside, by simp [table.mark_ne_apostrophe]⟩

/-- Around the name of the column there are no apostrophes. -/
theorem not_mem_round_column (table column : QuotedName) :
    '\'' ∉ [table.mark, ' ', '(', column.mark] ∧ '\'' ∉ [column.mark, ')'] := by
  simp [table.mark_ne_apostrophe, column.mark_ne_apostrophe]

/-- The literals of a reference are within its names, unless one reaches from the table to the column. -/
theorem withoutLiterals_referenceText (table column : QuotedName) :
    withoutLiterals (referenceText table column) = referenceText table.emptied column.emptied ∨
      ∃ front behind, withoutLiterals (referenceText table column) = front ++ '\'' :: '\'' :: behind ∧
        front.count '\'' < table.inner.count '\'' ∧ behind.count '\'' < column.inner.count '\'' := by
  obtain ⟨before', after'⟩ := not_mem_round_column table column
  have apart : (referenceTail table column).head? ≠ some '\'' := fun same =>
    table.mark_ne_apostrophe (Option.some.inj same).symm
  rw [referenceText_eq, withoutLiterals_append_left (not_mem_referenceHead table)]
  rcases withoutLiterals_append apart table.inner with separate | ⟨front, before, behind, split, made, inside, fewer⟩
  · rw [separate, referenceTail, withoutLiterals_append_left before', withoutLiterals_append_right after']
    exact .inl (referenceText_eq table.emptied column.emptied).symm
  · refine .inr ⟨referenceHead table ++ front, withoutLiterals behind, ?_, ?_, ?_⟩
    · rw [made, List.append_assoc]
    · rw [List.count_append, List.count_eq_zero.mpr (not_mem_referenceHead table), Nat.zero_add]
      exact fewer
    · have total : (referenceTail table column).count '\'' = column.inner.count '\'' := by
        rw [referenceTail, List.count_append, List.count_append, List.count_eq_zero.mpr before',
          List.count_eq_zero.mpr after', Nat.zero_add, Nat.add_zero]
      have fewer' := count_withoutLiterals_le '\'' behind
      rw [split, List.count_append, List.count_cons_self] at total
      omega

/-- The table of a reference stands before the list of its columns. -/
theorem exists_of_find_inlineReference {table columns left : Text}
    (found : inlineReference.find false text = some ((table, columns), left)) (some' : columns ≠ []) :
    ∃ before behind, text = before ++ '(' :: behind ∧ table.Sublist before ∧ columns.Sublist behind := by
  obtain ⟨skipped, rest, rfl, member⟩ := exists_of_find found
  obtain ⟨_, _, begun, onward⟩ := mem_bind.mp member
  obtain ⟨span, _, named, onward'⟩ := mem_bind.mp onward
  obtain ⟨_, _, blank, onward''⟩ := mem_bind.mp onward'
  obtain ⟨listed, _, list, finish⟩ := mem_bind.mp onward''
  obtain ⟨pair, rfl⟩ := Prod.mk.inj (List.mem_singleton.mp finish)
  obtain ⟨rfl, rfl⟩ := Prod.mk.inj pair
  obtain ⟨keyword, rfl, _⟩ := spans_keywordThenBlanks _ _ _ _ begun
  obtain ⟨rfl, _, qualified⟩ := mem_captured.mp named
  obtain ⟨name, rfl, _⟩ := spans_qualifiedName _ _ _ qualified
  obtain ⟨gap, rfl, _⟩ := mem_run.mp blank
  rcases mem_either.mp list with present | absent
  · obtain ⟨inside, after, enclosed, finish⟩ := mem_bind.mp present
    obtain ⟨rfl, rfl⟩ := Prod.mk.inj (List.mem_singleton.mp finish)
    obtain rfl := exists_of_mem_parenthesized enclosed
    refine ⟨skipped ++ (keyword ++ (name ++ gap)), inside ++ ')' :: left, by simp, ?_, List.sublist_append_left _ _⟩
    rw [Span.text_append]
    exact (List.sublist_append_left name gap).trans
      ((List.sublist_append_right keyword _).trans (List.sublist_append_right skipped _))
  · obtain ⟨rfl, _⟩ := Prod.mk.inj (List.mem_singleton.mp absent)
    exact absurd rfl some'

/-- A text with two apostrophes in a row gives no reference to names that hold more apostrophes than stand on
either side of these. -/
theorem references_ne_of_apostrophes {front behind : Text} (fewer : front.count '\'' < table.inner.count '\'')
    (fewer' : behind.count '\'' < column.inner.count '\'') :
    (readColumnConstraints name type (front ++ '\'' :: '\'' :: behind)).references ≠ some (table.name, [column.name]) := by
  intro same
  obtain ⟨⟨⟨written, listed⟩, left⟩, found, read⟩ := Option.map_eq_some_iff.mp same
  obtain ⟨sameTable, sameColumns⟩ := Prod.mk.inj read
  have some' : listed ≠ [] := by
    rintro rfl
    cases sameColumns
  obtain ⟨before, after, split, inBefore, inAfter⟩ := exists_of_find_inlineReference found some'
  have apostrophe : IsSign '\'' := by decide
  have countTable : table.inner.count '\'' ≤ written.count '\'' := by
    have named := count_normalizeIdentifier_le apostrophe written
    rwa [sameTable, QuotedName.name, apostrophe.count_lower, apostrophe.count_trim] at named
  have countColumn : column.inner.count '\'' ≤ listed.count '\'' := by
    have member : column.name ∈ columnList listed := by
      rw [show columnList listed = [column.name] from sameColumns]
      exact List.mem_singleton_self _
    have named := count_le_of_mem_columnList apostrophe member
    rwa [QuotedName.name, apostrophe.count_lower, apostrophe.count_trim] at named
  have total := inBefore.count_le '\''
  have total' := inAfter.count_le '\''
  rcases List.append_eq_append_iff.mp split with ⟨later, rfl, rest⟩ | ⟨later, rfl, rest⟩
  · -- The list stands behind both apostrophes.
    have behindOne : ∀ {text later : Text}, '\'' :: text = later ++ '(' :: after → ∃ more, text = more ++ '(' :: after := by
      intro text later same
      rcases List.cons_eq_append_iff.mp same with ⟨_, same⟩ | ⟨more, _, same⟩
      · exact absurd (List.cons.inj same).1 (by decide)
      · exact ⟨more, same⟩
    obtain ⟨_, once⟩ := behindOne rest
    obtain ⟨more, rfl⟩ := behindOne once
    rw [List.count_append, List.count_cons] at fewer'
    omega
  · -- The table stands before both apostrophes.
    rw [List.count_append] at fewer
    omega

/-! ### Marks of the column -/

theorem isWord_references : IsWord "REFERENCES".toList := by decide

/-- What a reference mentions, its names mention on their own. -/
theorem mentions_referenceText {α : Type} {reader : Reader α} {letters : Text} (seeks : reader.Seeks letters)
    (some' : letters ≠ []) (other : folded "REFERENCES".toList ≠ folded letters)
    (stops : ∀ mark, isBlank mark = false → isWordChar mark = false → reader.Stops mark) (table column : QuotedName) :
    reader.Mentions (' ' :: referenceText table column) ↔ reader.Mentions table.inner ∨ reader.Mentions column.inner := by
  have apart : ∀ quoted : QuotedName, isWordChar quoted.mark = false := fun quoted =>
    quoted.of_mark (isWordChar · = false) (by decide) (by decide)
  have unblank : ∀ quoted : QuotedName, isBlank quoted.mark = false := fun quoted =>
    quoted.of_mark (isBlank · = false) (by decide) (by decide)
  have named : ∀ (quoted : QuotedName) (rest : Text),
      reader.Mentions (quoted.text ++ rest) ↔ reader.Mentions quoted.inner ∨ reader.Mentions rest := by
    intro quoted rest
    have cut : reader.Mentions (quoted.inner ++ quoted.mark :: rest) ↔
        reader.Mentions quoted.inner ∨ reader.Mentions rest :=
      mentions_append ((stops quoted.mark (unblank quoted) (apart quoted)).accepts_append · rest) (apart quoted)
    rw [QuotedName.text, List.cons_append, List.append_assoc, mentions_cons seeks some' (apart quoted),
      List.singleton_append, cut]
  have nothing : ¬ reader.Mentions [')'] := by
    rw [mentions_cons seeks some' (by decide), ← find_eq_none_iff]
    exact seeks.find_nil some' false
  have skipped := find_behind_word seeks some' isWord_references other
    (table.text ++ ([' '] ++ '(' :: (column.text ++ [')'])))
  rw [← isSome_find_iff]
  unfold referenceText
  rw [List.singleton_append, skipped, isSome_find_iff, named, List.singleton_append,
    mentions_cons seeks some' (by decide), mentions_cons seeks some' (by decide), named, or_iff_left nothing]

/-- The names of a reference are read as they stand, and nothing else is read of them. -/
structure IsOpaque (table column : QuotedName) : Prop where
  literals : withoutLiterals (referenceText table column) = referenceText table column
  list : ')' ∉ column.inner
  notNull : ¬ ((wholeKeywords "NOT".toList "NULL".toList).Mentions table.inner ∨
    (wholeKeywords "NOT".toList "NULL".toList).Mentions column.inner)
  primaryKey : ¬ ((wholeKeywords "PRIMARY".toList "KEY".toList).Mentions table.inner ∨
    (wholeKeywords "PRIMARY".toList "KEY".toList).Mentions column.inner)
  unique : ¬ ((do keyword "UNIQUE".toList; wordEnd : Reader Unit).Mentions table.inner ∨
    (do keyword "UNIQUE".toList; wordEnd : Reader Unit).Mentions column.inner)
  check : (checkHead.find false (referenceText table column)).bind (fun (_, fromBody) => enclosed fromBody) = none

theorem isMarkedBy_referenceText {definition : ColumnDefinition}
    (marked : definition.IsMarkedBy (' ' :: referenceText table column)) :
    (definition.notNull = true ↔ (wholeKeywords "NOT".toList "NULL".toList).Mentions table.inner ∨
      (wholeKeywords "NOT".toList "NULL".toList).Mentions column.inner) ∧
    (definition.primaryKey = true ↔ (wholeKeywords "PRIMARY".toList "KEY".toList).Mentions table.inner ∨
      (wholeKeywords "PRIMARY".toList "KEY".toList).Mentions column.inner) ∧
    (definition.unique = true ↔ (do keyword "UNIQUE".toList; wordEnd : Reader Unit).Mentions table.inner ∨
      (do keyword "UNIQUE".toList; wordEnd : Reader Unit).Mentions column.inner) := by
  refine ⟨marked.notNull.trans ?_, marked.primaryKey.trans ?_, marked.unique.trans ?_⟩
  · exact mentions_referenceText (seeks_wholeKeywords (by decide)) (by decide) (by decide)
      (fun _ => stops_wholeKeywords (by decide) (by decide)) table column
  · exact mentions_referenceText (seeks_wholeKeywords (by decide)) (by decide) (by decide)
      (fun _ => stops_wholeKeywords (by decide) (by decide)) table column
  · exact mentions_referenceText seeks_unique (by decide) (by decide) (fun _ _ => stops_unique) table column

/-! ### A foreign key on its own -/

/-- A foreign key that is not part of a column. -/
def foreignKeyText (name : Text) (table column : QuotedName) : Text :=
  "FOREIGN".toList ++ ([' '] ++ ("KEY".toList ++ ([' '] ++ '(' :: (name ++ ')' :: ' ' :: referenceText table column))))

theorem first_referencesClause_referenceText (table column : QuotedName) :
    referencesClause.first (' ' :: referenceText table column) = some (table.text, '(' :: (column.text ++ [')'])) := by
  have gap : blanks.first ([' '] ++ referenceText table column) = some ((), referenceText table column) :=
    first_blanks (by decide) (isWord_references.ends_append _)
  refine first_bind gap ?_
  refine first_bind (first_bind (first_keyword ..) (first_blanks1 (by decide) (by decide) (ends_table table _))) ?_
  refine first_bind (first_captured (first_qualifiedName (table.first_name _) (list_alone _))) ?_
  refine first_bind (first_blanks (by decide) (ends_cons.mpr (by decide))) ?_
  rw [Span.text_append]
  rfl

theorem isWord_foreign : IsWord "FOREIGN".toList := by decide

theorem solid_referenceText (table column : QuotedName) : Solid (referenceText table column) where
  some' := List.append_ne_nil_of_left_ne_nil isWord_references.some' _
  first := isWord_references.ends_append _
  last := by
    have split : referenceText table column = referenceHead table ++
        (table.inner ++ ([table.mark, ' ', '(', column.mark] ++ (column.inner ++ [column.mark]))) ++ [')'] := by
      rw [referenceText_eq, referenceTail]
      simp only [List.append_assoc, List.cons_append, List.nil_append]
    rw [split, ends_reverse_append (List.cons_ne_nil _ _)]
    exact ends_cons.mpr (by decide)

theorem solid_foreignKeyText (name : Text) (table column : QuotedName) : Solid (foreignKeyText name table column) where
  some' := List.append_ne_nil_of_left_ne_nil isWord_foreign.some' _
  first := isWord_foreign.ends_append _
  last := by
    have split : foreignKeyText name table column =
        "FOREIGN".toList ++ ([' '] ++ ("KEY".toList ++ ([' '] ++ '(' :: (name ++ [')', ' '])))) ++
          referenceText table column := by
      unfold foreignKeyText
      simp only [List.append_assoc, List.cons_append, List.nil_append]
    rw [split, ends_reverse_append (solid_referenceText table column).some']
    exact (solid_referenceText table column).last

theorem constraint_foreignKeyText (balanced : Balanced name) (table column : QuotedName) :
    Dialect.standard.constraint (foreignKeyText name table column) = .ok {
      kind := .foreignKey
      columns := columnList name
      referencedTable := some table.name
      referencedColumns := [column.name] } := by
  have isWord' : IsWord "KEY".toList := by decide
  have solid := solid_foreignKeyText name table column
  have apart : IsApart ([' '] ++ '(' :: (name ++ ')' :: ' ' :: referenceText table column)) :=
    isApart_gap (by decide) (by decide) _
  have kind : classifyDefinition (foreignKeyText name table column) = .foreignKey :=
    classifyDefinition_of_headKind solid.first (WrittenConstraint.headKind_foreignKey (by decide) (by decide) apart)
  have head : foreignKeyHead.first (foreignKeyText name table column) =
      some ((), '(' :: (name ++ ')' :: ' ' :: referenceText table column)) :=
    first_bind (first_keywords (by decide) (by decide) (isWord'.ends_append _)) (first_listHead (by decide) _)
  have unnamed : namedConstraint.Refuses (foreignKeyText name table column) :=
    WrittenConstraint.refuses_namedConstraint isWord_foreign (by decide) (isApart_gap (by decide) (by decide) _)
  have own : enclosed ('(' :: (name ++ ')' :: ' ' :: referenceText table column)) =
      some (name, ' ' :: referenceText table column) := enclosed_of_balanced balanced _
  have referenced : columnsFrom (foreignKeyText name table column) ('(' :: (column.text ++ [')'])) = .ok [column.name] := by
    have list : enclosed ('(' :: (column.text ++ [')'])) = some (column.text, []) :=
      enclosed_of_balanced column.balanced []
    simp only [columnsFrom, list, column.solid.trim_eq, column.columnList_text]
    rfl
  have read : readConstraintOf (classifyDefinition (foreignKeyText name table column)) (foreignKeyText name table column) =
      .ok (some {
        kind := .foreignKey
        columns := columnList name
        referencedTable := some table.name
        referencedColumns := [column.name] }) := by
    rw [kind]
    simp only [readConstraintOf, head, readForeignKey, own, first_referencesClause_referenceText, List.head?_cons,
      if_true, referenced, table.normalizeIdentifier_text]
    rfl
  exact constraint_of_read (splitName_of_refuses solid unnamed) read

/-! ### A reference behind a type -/

/-- A reference is read of both names only if there is nothing in their literals. -/
theorem withoutLiterals_eq_of_references (same : (readColumnConstraints name type
    (' ' :: withoutLiterals (referenceText table column))).references = some (table.name, [column.name])) :
    withoutLiterals (referenceText table column) = referenceText table column := by
  rcases withoutLiterals_referenceText table column with separate | ⟨front, behind, made, fewer, fewer'⟩
  · rw [separate, references_referenceText, Option.some.injEq, Prod.mk.injEq] at same
    obtain ⟨sameTable, sameColumn⟩ := same
    split at sameColumn
    · cases sameColumn
    · rw [separate, table.emptied_eq_of_name sameTable, column.emptied_eq_of_name (List.cons.inj sameColumn).1]
  · rw [made, ← List.cons_append] at same
    exact absurd same (references_ne_of_apostrophes (by simpa using fewer) fewer')

theorem check_eq_none_iff (name type : Text) (table column : QuotedName) :
    (readColumnConstraints name type (' ' :: referenceText table column)).check = none ↔
      (checkHead.find false (referenceText table column)).bind (fun (_, fromBody) => enclosed fromBody) = none := by
  have skipped := seeks_checkHead.find_cons (by decide) (by decide) false (referenceText table column) (c := ' ')
  rw [readColumnConstraints, skipped]
  cases checkHead.find false (referenceText table column) with
  | none => exact iff_of_true rfl rfl
  | some found => exact Option.map_eq_none_iff

/-- A reference to names in quotes gives the column the foreign key that it gives on its own, and no marks,
exactly if the names are opaque. -/
theorem readColumn_reference (identified : IsIdentifier name) (typed : IsType type) (table column : QuotedName) :
    (Balanced name → Dialect.standard.constraint (foreignKeyText name table column) = .ok {
      kind := .foreignKey
      columns := columnList name
      referencedTable := some table.name
      referencedColumns := [column.name] }) ∧
    ∃ definition, readColumn (name ++ ' ' :: (type ++ ' ' :: referenceText table column)) = .ok definition ∧
      (definition = {
        name := normalizeIdentifier name
        dataType := type
        references := some (table.name, [column.name]) } ↔ IsOpaque table column) := by
  refine ⟨fun balanced => constraint_foreignKeyText balanced table column, _,
    readColumn_of_clause identified typed (solid_referenceText table column), ?_⟩
  have marked := isMarkedBy_referenceText (isMarkedBy_readColumnConstraints (normalizeIdentifier name) type
    (' ' :: referenceText table column))
  have references := references_referenceText (normalizeIdentifier name) type table column
  have check := check_eq_none_iff (normalizeIdentifier name) type table column
  constructor
  · intro same
    have literals := withoutLiterals_eq_of_references (congrArg ColumnDefinition.references same)
    rw [literals] at same
    rw [same] at marked references check
    refine ⟨literals, fun closed => ?_, ?_, ?_, ?_, check.mp rfl⟩
    · rw [if_pos closed] at references
      cases references
    · exact fun mentioned => Bool.false_ne_true (marked.1.mpr mentioned)
    · exact fun mentioned => Bool.false_ne_true (marked.2.1.mpr mentioned)
    · exact fun mentioned => Bool.false_ne_true (marked.2.2.mpr mentioned)
  · intro isOpaque
    rw [isOpaque.literals]
    rw [if_neg isOpaque.list] at references
    have notNull := Bool.eq_false_iff.mpr (mt marked.1.mp isOpaque.notNull)
    have primaryKey := Bool.eq_false_iff.mpr (mt marked.2.1.mp isOpaque.primaryKey)
    have unique := Bool.eq_false_iff.mpr (mt marked.2.2.mp isOpaque.unique)
    have unchecked := check.mpr isOpaque.check
    exact ColumnDefinition.ext rfl rfl notNull primaryKey unique references unchecked

theorem readColumn_reference_parenthesis :
    Dialect.standard.constraint "FOREIGN KEY (c) REFERENCES \"a\" (\"x)y\")".toList = .ok {
      kind := .foreignKey
      columns := ["c".toList]
      referencedTable := some "a".toList
      referencedColumns := ["x)y".toList] } ∧
    ∃ definition, readColumn "c INT REFERENCES \"a\" (\"x)y\")".toList = .ok definition ∧ definition ≠ {
      name := "c".toList
      dataType := "INT".toList
      references := some ("a".toList, ["x)y".toList]) } := by
  have typed : IsType "INT".toList := .word (by decide) (by decide) (by decide)
  obtain ⟨alone, definition, inline, kept⟩ := readColumn_reference (show IsIdentifier "c".toList by decide) typed
    { mark := '"', inner := "a".toList } { mark := '"', inner := "x)y".toList }
  refine ⟨alone (by decide), definition, inline, fun same => ?_⟩
  exact (kept.mp same).list (by decide)

end Schemata.Ddl
