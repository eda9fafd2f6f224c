import Schemata.Ddl.Dialect
import Schemata.Proofs.Ddl.WrittenNames

/-!
Constraints that stand on their own are told by their first words, and give the constraint that is
written.
-/

namespace Schemata.Ddl

open Text Script Reader

variable {word text gap rest : Text} {names : List WrittenName} {tokens after : List Text}

/-! ### First words -/

theorem upperChar_of_isApart {c : Char} (apart : isBlank c = true ∨ [c] ∈ marks) : upperChar c = [c] := by
  rcases apart with blank | mark
  · exact of_isBlank (fun c => upperChar c = [c]) (by decide) blank
  · rcases mem_marks.mp mark with same | same | same <;> cases same <;> decide

theorem upper_gap (blank : ∀ c ∈ gap, isBlank c = true) (rest : Text) : upper (gap ++ rest) = gap ++ upper rest := by
  have same : upper gap = gap := by
    induction gap with
    | nil => rfl
    | cons c gap ih =>
        rw [upper, List.flatMap_cons, upperChar_of_isApart (.inl (blank c (List.mem_cons_self ..)))]
        exact congrArg (c :: ·) (ih fun d member => blank d (List.mem_cons_of_mem _ member))
  rw [upper_append, same]

theorem ends_upper (apart : IsApart rest) : Ends isWordChar (upper rest) := by
  cases rest with
  | nil => exact ends_nil
  | cons c rest =>
      rw [upper, List.flatMap_cons, upperChar_of_isApart (apart c rfl)]
      exact ends_cons.mpr (wordEnds_of_isApart apart c rfl)

theorem IsWord.wordly_upper (isWord : IsWord word) : ∀ c ∈ upper word, isWordChar c = true := by
  intro c member
  obtain ⟨d, inside, made⟩ := List.mem_flatMap.mp member
  have named := isWord.named d inside
  rw [upperChar, if_pos (toNat_lt_of_isNameChar named), List.mem_singleton] at made
  rw [made]
  exact of_isNameChar (fun d => isWordChar d.toUpper) (by decide) named

theorem IsWord.startsWithWord_upper (isWord : IsWord word) (rest : Text) :
    startsWithWord (upper (word ++ rest)) = true := by
  obtain ⟨c, more, rfl⟩ := List.exists_cons_of_ne_nil isWord.some'
  have named := isWord.named c (List.mem_cons_self ..)
  have high : upperChar c = [c.toUpper] := by rw [upperChar, if_pos (toNat_lt_of_isNameChar named)]
  rw [List.cons_append, upper, List.flatMap_cons, high]
  exact of_isNameChar (fun d => isWordChar d.toUpper) (by decide) named

/-- A definition is not told by a keyword that is not its first word. -/
theorem refuses_upper {letters : Text} {next : Unit → Reader Unit} (wordly : ∀ c ∈ letters, isWordChar c = true)
    (solid : ∀ left, startsWithWord left = true → (next ()).Refuses left) (isWord : IsWord word)
    (other : folded word ≠ folded letters) (apart : IsApart rest) :
    (exactly letters >>= next).Refuses (upper (word ++ rest)) := by
  rw [upper_append]
  exact (exactly_readsWord wordly).refuses solid isWord.wordly_upper (ends_upper apart)
    fun same => absurd same (isWord.upper_ne other)

theorem headKind_of_other (isWord : IsWord word) (apart : IsApart rest)
    (primary : folded word ≠ folded "PRIMARY".toList) (foreign : folded word ≠ folded "FOREIGN".toList) :
    headKind (upper (word ++ rest)) =
      if (do exactly "CONSTRAINT".toList; blanks1 : Reader Unit).accepts (upper (word ++ rest)) then
        some .constraint
      else if (do exactly "UNIQUE".toList; wordEnd : Reader Unit).accepts (upper (word ++ rest)) then some .unique
      else if (do exactly "CHECK".toList; blanks; ahead '(' : Reader Unit).accepts (upper (word ++ rest)) then
        some .check
      else none := by
  have noPrimary : (capitals "PRIMARY".toList "KEY".toList).Refuses (upper (word ++ rest)) :=
    refuses_upper (by decide) (fun _ => refuses_blanks1_in_word) isWord primary apart
  have noForeign : (capitals "FOREIGN".toList "KEY".toList).Refuses (upper (word ++ rest)) :=
    refuses_upper (by decide) (fun _ => refuses_blanks1_in_word) isWord foreign apart
  simp only [headKind, noPrimary.accepts, noForeign.accepts, Bool.false_eq_true, if_false]

/-- A definition that begins with no keyword has no kind by its first words. -/
theorem headKind_of_name (written : WrittenName) (apart : IsApart rest) :
    headKind (upper (written.text ++ rest)) = none := by
  have lacks : ∀ letters : Text, folded letters ∈ reserved → folded written.text ≠ folded letters :=
    fun _ => written.lacks
  have noConstraint : (do exactly "CONSTRAINT".toList; blanks1 : Reader Unit).Refuses
      (upper (written.text ++ rest)) :=
    refuses_upper (by decide) (fun left starts => refuses_run1 (ends_isBlank_of_word starts)) written.isWord
      (lacks _ (by decide)) apart
  have noUnique : (do exactly "UNIQUE".toList; wordEnd : Reader Unit).Refuses (upper (written.text ++ rest)) :=
    refuses_upper (by decide) (fun _ => refuses_wordEnd) written.isWord (lacks _ (by decide)) apart
  have noCheck : (do exactly "CHECK".toList; blanks; ahead '(' : Reader Unit).Refuses
      (upper (written.text ++ rest)) :=
    refuses_upper (by decide) (fun _ => refuses_opening_in_word) written.isWord (lacks _ (by decide)) apart
  rw [headKind_of_other written.isWord apart (lacks _ (by decide)) (lacks _ (by decide)), noConstraint.accepts,
    noUnique.accepts, noCheck.accepts]
  simp only [Bool.false_eq_true, if_false]

theorem first_capitals {one other : Text} (blank : ∀ c ∈ gap, isBlank c = true) (apart : gap ≠ [])
    (solid : Ends isBlank (other ++ rest)) (ends : Ends isWordChar rest) :
    (capitals one other).first (one ++ (gap ++ (other ++ rest))) = some ((), rest) := by
  refine first_bind (first_exactly ..) (first_bind (first_blanks1 blank apart solid) ?_)
  exact first_bind (first_exactly ..) (first_wordEnd (startsWithWord_eq_false_iff.mpr ends))

theorem accepts_of_first {α : Type} {reader : Reader α} {found : α × Text} (read : reader.first text = some found) :
    reader.accepts text = true := by
  rw [accepts, read]
  rfl

theorem classifyDefinition_of_headKind {kind : DefinitionKind} (ends : Ends isBlank text)
    (head : headKind (upper text) = some kind) : classifyDefinition text = kind := by
  simp only [classifyDefinition, trimLeft, ends.dropWhile_eq, head]

/-! ### Lists of columns -/

theorem opens_of_spells_list (spelled : Spells (listTokens names ++ after) text) : ∃ more, text = '(' :: more := by
  obtain ⟨gap, rest, rfl, _⟩ := spelled.uncons
  exact ⟨gap ++ rest, rfl⟩

/-- The names of a list in parentheses, and what follows them. -/
theorem enclosed_of_spells_list (spelled : Spells (listTokens names ++ after) text) :
    ∃ list gap rest, enclosed text = some (list, gap ++ rest) ∧ columnList list = names.map WrittenName.name ∧
      columnList (trim list) = names.map WrittenName.name ∧ (∀ c ∈ gap, isBlank c = true) ∧ Spells after rest := by
  have shape : listTokens names ++ after =
      ['('] :: [[',']].intercalate (names.map fun written => [written.text]) ++ [')'] :: after := by
    simp [listTokens]
  rw [shape] at spelled
  obtain ⟨gap, body, gap', rest, closed, blank, blank', inside, further⟩ := spelled.enclosed (isInner_names names)
  refine ⟨gap ++ body, gap', rest, closed, columnList_of_spells inside blank, ?_, blank', further⟩
  exact columnList_of_spells (inside.trim (solid_of_mem_names names) blank) (List.forall_mem_nil _)

theorem columnsFrom_of_spells (definition : Text) (spelled : Spells (listTokens names ++ after) text) :
    columnsFrom definition text = .ok (names.map WrittenName.name) := by
  obtain ⟨list, gap, rest, closed, _, names, _⟩ := enclosed_of_spells_list spelled
  rw [columnsFrom, closed]
  exact congrArg Except.ok names

/-- What begins with a word is not read between white space and a parenthesis. -/
theorem refuses_blanks1_opening {α : Type} {next : Unit → Reader α}
    (refuses : ∀ left, Ends isWordChar left → (next ()).Refuses left) (blank : ∀ c ∈ gap, isBlank c = true)
    (more : Text) : (blanks1 >>= next).Refuses (gap ++ '(' :: more) := by
  refine refuses_blanks1 (fun left blank => refuses left ?_) ?_
  · obtain ⟨c, head, blank⟩ := blank
    intro d member
    cases head.symm.trans member
    exact not_isWordChar_of_isBlank blank
  · rw [trimLeft_append blank (ends_cons.mpr (by decide))]
    exact refuses _ (ends_cons.mpr (by decide))

/-- The parenthesis of a list that has no name. -/
theorem first_listHead (blank : ∀ c ∈ gap, isBlank c = true) (more : Text) :
    listHead.first (gap ++ '(' :: more) = some ((), '(' :: more) := by
  have unnamed : (do name; blanks : Reader Unit).Refuses ('(' :: more) := by
    refine (refuses_identifier fun c member => ?_).bind
    cases member
    decide
  refine first_bind (first_blanks blank (ends_cons.mpr (by decide))) ?_
  exact first_bind unnamed.first_maybe (first_ahead ..)

theorem IsWord.ends_append (isWord : IsWord word) (rest : Text) : Ends isBlank (word ++ rest) :=
  isWord.solid.first.append isWord.some' rest

theorem first_keywords {one other : Text} (blank : ∀ c ∈ gap, isBlank c = true) (apart : gap ≠ [])
    (solid : Ends isBlank (other ++ rest)) :
    (keywords one other).first (one ++ (gap ++ (other ++ rest))) = some ((), rest) :=
  first_bind (first_keyword ..) (first_bind (first_blanks1 blank apart solid) (first_keyword ..))

/-- A constraint is read from its kind and the definition without its name. -/
theorem constraint_of_read {definition : Text} {name : Option Text} {constraint : Constraint}
    (named : splitName definition = (name, text))
    (read : readConstraintOf (classifyDefinition text) text = .ok (some constraint)) :
    Dialect.standard.constraint definition = .ok { constraint with name } := by
  have standard : Dialect.standard.constraint definition =
      Dialect.readConstraint (fun definition => return classifyDefinition definition) definition := rfl
  rw [standard]
  unfold Dialect.readConstraint
  rw [named]
  dsimp only
  rw [pure_bind, read]
  rfl

/-! ### Constraints -/

namespace WrittenConstraint

def kind : WrittenConstraint → DefinitionKind
  | primaryKey _ => .primaryKey
  | unique _ => .unique
  | foreignKey _ _ _ => .foreignKey

/-- What is read from the tokens of a constraint, without a name. -/
structure IsRead (constraint : WrittenConstraint) (text : Text) : Prop where
  kind : classifyDefinition text = constraint.kind
  read : readConstraintOf constraint.kind text = .ok (some (constraint.declared none))
  unnamed : namedConstraint.Refuses text

theorem refuses_namedConstraint (isWord : IsWord word) (other : folded word ≠ folded "CONSTRAINT".toList)
    (apart : IsApart rest) : namedConstraint.Refuses (word ++ rest) := by
  have seeks : namedConstraint.Seeks "CONSTRAINT".toList :=
    (seeks_keyword (by decide) fun left starts => refuses_run1 (ends_isBlank_of_word starts)).bind
  exact seeks word rest isWord.wordly (wordEnds_of_isApart apart) (isWord.not_spelt other)

theorem upper_keywords {one other : Text} (capital : upper one = one) (capital' : upper other = other)
    (blank : ∀ c ∈ gap, isBlank c = true) (rest : Text) :
    upper (one ++ (gap ++ (other ++ rest))) = one ++ (gap ++ (other ++ upper rest)) := by
  rw [upper_append, upper_gap blank, upper_append, capital, capital']

theorem isRead_primaryKey {columns : List WrittenName} (spelled : Spells (primaryKey columns).tokens text) :
    (primaryKey columns).IsRead text := by
  have isWord : IsWord "PRIMARY".toList := by decide
  have isWord' : IsWord "KEY".toList := by decide
  obtain ⟨gap, gap', rest, rfl, blank, distinct, blank', list, apart, _⟩ :=
    exists_of_spells_words isWord isWord' spelled
  have whole : Spells (listTokens columns ++ []) rest := by rwa [List.append_nil]
  obtain ⟨more, opens⟩ := opens_of_spells_list whole
  have head : headKind (upper ("PRIMARY".toList ++ (gap ++ ("KEY".toList ++ (gap' ++ rest))))) = some .primaryKey := by
    rw [upper_keywords (by decide) (by decide) blank, headKind,
      accepts_of_first (first_capitals blank distinct (isWord'.ends_append _) (ends_upper apart)), if_pos rfl]
  have read : primaryKeyHead.first ("PRIMARY".toList ++ (gap ++ ("KEY".toList ++ (gap' ++ rest)))) = some ((), rest) := by
    rw [opens]
    refine first_bind (first_keywords blank distinct (isWord'.ends_append _)) ?_
    refine first_bind (first_blanks blank' (ends_cons.mpr (by decide))) ?_
    have unclustered : (do either (keyword "CLUSTERED".toList) (keyword "NONCLUSTERED".toList); blanks :
        Reader Unit).Refuses ('(' :: more) := rfl
    exact first_bind unclustered.first_maybe (first_ahead ..)
  refine ⟨classifyDefinition_of_headKind (isWord.ends_append _) head, ?_,
    refuses_namedConstraint isWord (by decide) ?_⟩
  · simp only [kind, readConstraintOf, read, columnsFrom_of_spells _ whole]
    rfl
  · exact isApart_gap blank distinct _

theorem isRead_unique {columns : List WrittenName} (spelled : Spells (unique columns).tokens text) :
    (unique columns).IsRead text := by
  have isWord : IsWord "UNIQUE".toList := by decide
  obtain ⟨gap, rest, rfl, blank, list, apart, _⟩ := spelled.uncons
  have apart := apart isWord.not_mark
  have whole : Spells (listTokens columns ++ []) rest := by rwa [List.append_nil]
  obtain ⟨more, rfl⟩ := opens_of_spells_list whole
  have head : headKind (upper ("UNIQUE".toList ++ (gap ++ '(' :: more))) = some .unique := by
    have noConstraint : (do exactly "CONSTRAINT".toList; blanks1 : Reader Unit).Refuses
        (upper ("UNIQUE".toList ++ (gap ++ '(' :: more))) :=
      refuses_upper (by decide) (fun left starts => refuses_run1 (ends_isBlank_of_word starts)) isWord
        (by decide) apart
    have accepted : (do exactly "UNIQUE".toList; wordEnd : Reader Unit).accepts
        (upper ("UNIQUE".toList ++ (gap ++ '(' :: more))) = true := by
      have ends := startsWithWord_eq_false_iff.mpr (ends_upper apart)
      rw [upper_append, show upper "UNIQUE".toList = "UNIQUE".toList by decide]
      exact accepts_of_first (first_bind (first_exactly ..) (first_wordEnd ends))
    rw [headKind_of_other isWord apart (by decide) (by decide), noConstraint.accepts, accepted]
    simp only [Bool.false_eq_true, if_false, if_true]
  have read : uniqueHead.first ("UNIQUE".toList ++ (gap ++ '(' :: more)) = some ((), '(' :: more) := by
    have keyless : ∀ left, Ends isWordChar left →
        (either (keyword "KEY".toList) (keyword "INDEX".toList)).Refuses left := fun left ends =>
      (refuses_keyword (by decide) (by decide) ends).either (refuses_keyword (by decide) (by decide) ends)
    have unkeyed : (do blanks1; either (keyword "KEY".toList) (keyword "INDEX".toList) : Reader Unit).Refuses
        (gap ++ '(' :: more) := by
      exact refuses_blanks1_opening keyless blank more
    exact first_bind (first_keyword ..) (first_bind unkeyed.first_maybe (first_listHead blank more))
  refine ⟨classifyDefinition_of_headKind (isWord.ends_append _) head, ?_,
    refuses_namedConstraint isWord (by decide) apart⟩
  simp only [kind, readConstraintOf, read, columnsFrom_of_spells _ whole]
  rfl

/-- The clause that names the table of a foreign key. -/
theorem first_referencesClause {table : WrittenName} (blank : ∀ c ∈ gap, isBlank c = true)
    (spelled : Spells ("REFERENCES".toList :: table.text :: listTokens names) text) :
    ∃ rest, referencesClause.first (gap ++ text) = some (table.text, rest) ∧ Spells (listTokens names) rest := by
  have isWord : IsWord "REFERENCES".toList := by decide
  obtain ⟨gap', gap'', rest, rfl, blank', distinct, blank'', list, apart, _⟩ :=
    exists_of_spells_words isWord table.isWord spelled
  have whole : Spells (listTokens names ++ []) rest := by rwa [List.append_nil]
  obtain ⟨more, rfl⟩ := opens_of_spells_list whole
  refine ⟨'(' :: more, ?_, list⟩
  have alone : (trimLeft (gap'' ++ '(' :: more)).head? ≠ some '.' := by
    rw [trimLeft_append blank'' (ends_cons.mpr (by decide))]
    simp
  refine first_bind (first_blanks blank (isWord.ends_append _)) ?_
  refine first_bind (first_bind (first_keyword ..) (first_blanks1 blank' distinct (table.isWord.ends_append _))) ?_
  refine first_bind (first_captured (table.first_qualifiedName (nameEnds_of_isApart apart) alone)) ?_
  refine first_bind (first_blanks blank'' (ends_cons.mpr (by decide))) ?_
  rw [Span.text_append]
  rfl

theorem headKind_foreignKey (blank : ∀ c ∈ gap, isBlank c = true) (distinct : gap ≠ []) (apart : IsApart rest) :
    headKind (upper ("FOREIGN".toList ++ (gap ++ ("KEY".toList ++ rest)))) = some .foreignKey := by
  have isWord' : IsWord "KEY".toList := by decide
  have noPrimary : (capitals "PRIMARY".toList "KEY".toList).Refuses
      (upper ("FOREIGN".toList ++ (gap ++ ("KEY".toList ++ rest)))) :=
    refuses_upper (by decide) (fun _ => refuses_blanks1_in_word) (by decide) (by decide)
      (isApart_gap blank distinct _)
  rw [headKind, noPrimary.accepts, upper_keywords (by decide) (by decide) blank,
    accepts_of_first (first_capitals blank distinct (isWord'.ends_append _) (ends_upper apart))]
  simp only [Bool.false_eq_true, if_false, if_true]

theorem isRead_foreignKey {columns referenced : List WrittenName} {table : WrittenName}
    (spelled : Spells (foreignKey columns table referenced).tokens text) :
    (foreignKey columns table referenced).IsRead text := by
  have isWord : IsWord "FOREIGN".toList := by decide
  have isWord' : IsWord "KEY".toList := by decide
  obtain ⟨gap, gap', rest, rfl, blank, distinct, blank', list, apart, _⟩ :=
    exists_of_spells_words isWord isWord' spelled
  obtain ⟨more, opens⟩ := opens_of_spells_list list
  obtain ⟨inside, gap'', after, closed, names, _, blank'', further⟩ := enclosed_of_spells_list list
  obtain ⟨fromTable, clause, list'⟩ := first_referencesClause blank'' further
  have whole : Spells (listTokens referenced ++ []) fromTable := by rwa [List.append_nil]
  obtain ⟨more', opens'⟩ := opens_of_spells_list whole
  have head : headKind (upper ("FOREIGN".toList ++ (gap ++ ("KEY".toList ++ (gap' ++ rest))))) = some .foreignKey :=
    headKind_foreignKey blank distinct apart
  have read : foreignKeyHead.first ("FOREIGN".toList ++ (gap ++ ("KEY".toList ++ (gap' ++ rest)))) = some ((), rest) := by
    rw [opens]
    exact first_bind (first_keywords blank distinct (isWord'.ends_append _)) (first_listHead blank' more)
  refine ⟨classifyDefinition_of_headKind (isWord.ends_append _) head, ?_,
    refuses_namedConstraint isWord (by decide) (isApart_gap blank distinct _)⟩
  have opening : fromTable.head? = some '(' := by rw [opens']; rfl
  simp only [kind, readConstraintOf, read, readForeignKey, closed, clause, opening, if_true,
    columnsFrom_of_spells _ whole, names, table.normalizeIdentifier_text]
  rfl

theorem isRead (constraint : WrittenConstraint) (spelled : Spells constraint.tokens text) : constraint.IsRead text := by
  cases constraint with
  | primaryKey => exact isRead_primaryKey spelled
  | unique => exact isRead_unique spelled
  | foreignKey => exact isRead_foreignKey spelled

theorem isItem (constraint : WrittenConstraint) : IsItem constraint.tokens := by
  have primary : IsTidy ["PRIMARY".toList] := IsWord.isTidy (by decide)
  have foreign : IsTidy ["FOREIGN".toList] := IsWord.isTidy (by decide)
  have key : IsTidy ["KEY".toList] := IsWord.isTidy (by decide)
  have single : IsTidy ["UNIQUE".toList] := IsWord.isTidy (by decide)
  have refers : IsTidy ["REFERENCES".toList] := IsWord.isTidy (by decide)
  cases constraint with
  | primaryKey columns =>
      exact { primary.cons (key.cons (isTidy_listTokens columns)) with some' := List.cons_ne_nil _ _ }
  | unique columns => exact { single.cons (isTidy_listTokens columns) with some' := List.cons_ne_nil _ _ }
  | foreignKey columns table referenced =>
      have clause := refers.cons (table.isWord.isTidy.cons (isTidy_listTokens referenced))
      have tidy := (foreign.cons (key.cons (isTidy_listTokens columns))).append clause
      exact { tidy with some' := List.cons_ne_nil _ _ }

theorem constraint_of_splitName (constraint : WrittenConstraint) (spelled : Spells constraint.tokens text)
    {definition : Text} {name : Option WrittenName}
    (named : splitName definition = (name.map WrittenName.name, text)) :
    Dialect.standard.constraint definition = .ok (constraint.declared name) := by
  have core := constraint.isRead spelled
  have read : readConstraintOf (classifyDefinition text) text = .ok (some (constraint.declared none)) := by
    rw [core.kind, core.read]
  rw [constraint_of_read named read]
  cases constraint <;> rfl

/-- A constraint without a name is read as it is written. -/
theorem readEntry_unnamed (constraint : WrittenConstraint) (spelled : Spells constraint.tokens text) :
    readEntry Dialect.standard text = .ok (.constraint (constraint.declared none)) := by
  have core := spelled.trimmed constraint.isItem.solid
  have unnamed : splitName text = ((none : Option WrittenName).map WrittenName.name, trim text) := by
    rw [splitName, (constraint.isRead core).unnamed.first]
    rfl
  have read := constraint.constraint_of_splitName core unnamed
  have classified : Dialect.standard.classifyDefinition text = .ok constraint.kind :=
    congrArg Except.ok (constraint.isRead spelled).kind
  rw [readEntry, classified]
  cases constraint <;> simp only [kind, bind, Except.bind, read] <;> rfl

/-- A constraint with a name is read as it is written. -/
theorem readEntry_named (constraint : WrittenConstraint) (name : WrittenName)
    (spelled : Spells ("CONSTRAINT".toList :: name.text :: constraint.tokens) text) :
    readEntry Dialect.standard text = .ok (.constraint (constraint.declared (some name))) := by
  have isWord : IsWord "CONSTRAINT".toList := by decide
  have first : ∃ following ∈ constraint.tokens.head?, following ∉ marks := by
    cases constraint <;> exact ⟨_, rfl, by decide⟩
  have solid := (isWord.isTidy.cons (name.isWord.isTidy.cons constraint.isItem.toIsTidy)).solid
  obtain ⟨rest, split, core⟩ : ∃ rest, splitName text = ((some name).map WrittenName.name, trim rest) ∧
      Spells constraint.tokens rest := by
    obtain ⟨gap, gap', rest, trimmed, blank, distinct, blank', core, apart, distinct'⟩ :=
      exists_of_spells_words isWord name.isWord (spelled.trimmed solid)
    refine ⟨rest, ?_, core⟩
    have read : namedConstraint.first (trim text) = some (name.text, rest) := by
      rw [trimmed]
      refine first_bind (first_bind (first_keyword ..) (first_blanks1 blank distinct (name.isWord.ends_append _))) ?_
      refine first_bind (first_captured (name.first_name (nameEnds_of_isApart apart))) ?_
      refine first_bind (first_blanks1 blank' (distinct' first) (core.ends constraint.isItem.solid)) ?_
      rw [Span.text_append]
      rfl
    simp only [splitName, read, name.normalizeIdentifier_text, Option.map_some]
  have read := constraint.constraint_of_splitName (core.trimmed constraint.isItem.solid) split
  have classified : classifyDefinition text = .constraint := by
    obtain ⟨gap, gap', rest, rfl, blank, distinct, _⟩ := exists_of_spells_words isWord name.isWord spelled
    have accepted : (do exactly "CONSTRAINT".toList; blanks1 : Reader Unit).accepts
        (upper ("CONSTRAINT".toList ++ (gap ++ (name.text ++ (gap' ++ rest))))) = true := by
      have ends := ends_isBlank_of_word (name.isWord.startsWithWord_upper (gap' ++ rest))
      rw [upper_append, show upper "CONSTRAINT".toList = "CONSTRAINT".toList by decide, upper_gap blank]
      exact accepts_of_first (first_bind (first_exactly ..) (first_blanks1 blank distinct ends))
    refine classifyDefinition_of_headKind (isWord.ends_append _) ?_
    rw [headKind_of_other isWord (isApart_gap blank distinct _) (by decide) (by decide), accepted,
      if_pos rfl]
  have standard : Dialect.standard.classifyDefinition text = .ok .constraint := congrArg Except.ok classified
  rw [readEntry, standard]
  simp only [bind, Except.bind, read]
  rfl

end WrittenConstraint

end Schemata.Ddl
