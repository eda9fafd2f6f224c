import Schemata.Proofs.Ddl.Signs
import Schemata.Proofs.Ddl.FirstWords
import Schemata.Proofs.Ddl.FoldedReaders
import Schemata.Proofs.Text.Upper

/-!
Definitions are read as what they are classified as, although one is classified without the blanks before it
and by its first words in capitals, and read without the blanks on either side and in either case.
-/

namespace Schemata.Ddl

open Text Script Reader

variable {text core trail word rest definition : Text} {kind : ConstraintKind}

/-! ### Blanks at the end -/

/-- Blanks at the end of a text do not reach into a word at its beginning. -/
theorem exists_of_append_blank (some' : word ≠ []) (last : Ends isBlank word.reverse)
    (blank : ∀ c ∈ trail, isBlank c = true) (split : core ++ trail = word ++ rest) :
    ∃ left, core = word ++ left ∧ rest = left ++ trail := by
  rcases List.append_eq_append_iff.mp split with ⟨later, rfl, rfl⟩ | ⟨left, rfl, rfl⟩
  · rcases List.eq_nil_or_concat later with rfl | ⟨more, c, rfl⟩
    · exact ⟨[], by simp, rfl⟩
    · have solid := last c (by simp)
      rw [blank c (by simp)] at solid
      cases solid
  · exact ⟨left, rfl, rfl⟩

theorem exists_of_append_blank_behind {words gap : Text} (some' : word ≠ []) (last : Ends isBlank word.reverse)
    (blank : ∀ c ∈ trail, isBlank c = true) (split : core ++ trail = words ++ (gap ++ (word ++ rest))) :
    ∃ left, core = words ++ (gap ++ (word ++ left)) ∧ rest = left ++ trail := by
  have whole : core ++ trail = (words ++ (gap ++ word)) ++ rest := by simpa using split
  obtain ⟨left, rfl, same⟩ := exists_of_append_blank (by simp [some'])
    (by rwa [← List.append_assoc, ends_reverse_append some']) blank whole
  exact ⟨left, by simp, same⟩

/-- What begins like a constraint does so without the blanks at its end. -/
theorem Starts.of_append (blank : ∀ c ∈ trail, isBlank c = true) (starts : Starts kind.heading (core ++ trail)) :
    Starts kind.heading core := by
  have shorter : ∀ {left : Text}, Ends isWordChar (left ++ trail) → Ends isWordChar left := by
    intro left ends c head
    exact ends c (by rw [List.head?_append, head]; rfl)
  have last : Ends isBlank "KEY".toList.reverse := ends_cons.mpr (by decide)
  generalize whole : core ++ trail = text at starts
  cases kind with
  | primaryKey =>
      cases starts with
      | primaryKey apart between ends =>
          obtain ⟨left, rfl, rfl⟩ := exists_of_append_blank_behind (by decide) last blank whole
          exact .primaryKey apart between (shorter ends)
  | foreignKey =>
      cases starts with
      | foreignKey apart between ends =>
          obtain ⟨left, rfl, rfl⟩ := exists_of_append_blank_behind (by decide) last blank whole
          exact .foreignKey apart between (shorter ends)
  | unique =>
      cases starts with
      | unique ends =>
          obtain ⟨left, rfl, rfl⟩ := exists_of_append_blank (by decide) (ends_cons.mpr (by decide)) blank whole
          exact .unique (shorter ends)
  | check =>
      cases starts with
      | check between =>
          have opening : Ends isBlank ['('].reverse := ends_cons.mpr (by decide)
          obtain ⟨left, rfl, rfl⟩ := exists_of_append_blank_behind (List.cons_ne_nil _ _) opening blank whole
          exact .check between

theorem starts_trim (same : classifyDefinition definition = kind.heading) :
    Starts kind.heading (upper (trim definition)) := by
  have ends : Ends isBlank (trimLeft definition) := ends_dropWhile isBlank definition
  have again : classifyDefinition (trimLeft definition) = classifyDefinition definition := by
    have trimmed : trimLeft (trimLeft definition) = trimLeft definition := ends.dropWhile_eq
    simp only [classifyDefinition, trimmed]
  have starts := starts_of_classifyDefinition ends (again.trans same)
  obtain ⟨trail, split, blank⟩ := exists_trimLeft definition
  rw [split, upper_append, ← List.append_nil trail, upper_gap blank, upper_nil, List.append_nil] at starts
  exact starts.of_append blank

/-! ### Constraints -/

/-- A check in capitals is one in either case. -/
theorem Starts.accepts_checkHead (starts : Starts .check (upper text)) : checkHead.accepts text = true := by
  generalize capitals : upper text = head at starts
  cases starts with
  | @check gap rest blank =>
      have watched : ∀ d ∈ "CHECK".toList ++ gap, d.toNat ∈ checkCodes := by
        refine List.forall_mem_append.mpr ⟨by decide, fun d member => ?_⟩
        exact List.mem_append_right _ (List.contains_iff_mem.mp (blank d member))
      rw [← List.append_assoc] at capitals
      obtain ⟨first, left, rfl, alike⟩ := exists_of_upper_eq watched capitals
      rw [← checkHead_blind.accepts, folded_append, alike, ← folded_append, checkHead_blind.accepts, List.append_assoc]
      exact accepts_of_first (first_bind (first_keyword ..) (first_bind (first_blanks blank (ends_cons.mpr (by decide)))
        (first_ahead ..)))

theorem constraintOutcome_kind {constraint : Constraint} (same : classifyDefinition definition = kind.heading)
    (read : constraintOutcome definition = .ok constraint) : constraint.kind = kind := by
  have starts := starts_trim same
  have split : splitName definition = (none, trim definition) := by
    rw [splitName, starts.refuses_namedConstraint.first]
  rcases constraintOutcome_of_starts split starts with ⟨other, outcome, _, heads⟩ | ⟨defect, outcome⟩
  · obtain rfl := Except.ok.inj (read.symm.trans outcome)
    exact heads
  · rw [outcome] at read
    cases read

/-! ### Heads of indexes -/

theorem peeks_delimited (opening closing : Char) : (delimited opening closing).Peeks :=
  (Peeks.char _).bind ((Peeks.run1 _).bind ((Peeks.char _).bind (.pure ())))

theorem peeks_identifier (starts : Char → Bool) : (identifier starts).Peeks :=
  (peeks_delimited _ _).either ((peeks_delimited _ _).either ((peeks_delimited _ _).either
    ((Peeks.char _).bind (.run _))))

theorem peeks_listHead : listHead.Peeks :=
  (Peeks.run _).bind ((((peeks_identifier _).bind (.run _)).maybe).bind (.ahead '('))

theorem peeks_keywordThenBlanks (letters : Text) : (keywordThenBlanks letters).Peeks :=
  (Peeks.keyword letters).bind (.run1 isBlank)

theorem peeks_indexHead : indexHead.Peeks :=
  (((peeks_keywordThenBlanks _).either (peeks_keywordThenBlanks _)).maybe.bind
    ((Peeks.keyword _).either (.keyword _))).bind peeks_listHead

/-- Behind the name of an index, or in place of it, stands a parenthesis. -/
theorem settles_listHead : listHead.Settles fun _ => True := by
  let opens (text : Text) : Prop := text.head? = some '('
  have solid : ∀ {text : Text}, opens text → Ends isBlank text := by
    intro text opening c head
    cases head.symm.trans opening
    decide
  have named : (do name; blanks : Reader Unit).Settles opens := by
    refine settles_name.bind (fun _ => (Settles.run isBlank).mono fun _ => solid) ?_
    intro _ text way member opening
    exact Opens.ends ⟨_, mem_bind.mpr ⟨(), way.2, member, mem_ahead.mpr ⟨rfl, opening⟩⟩⟩
  have list : (maybe (do name; blanks) >>= fun _ => ahead '(').Settles fun _ => True := by
    refine named.maybe_bind (fun _ => .ahead '(') (fun member => (mem_ahead.mp member).2) fun member member' => ?_
    refine begins_name.bind.apart (begins_ahead '(') ?_ member member'
    rintro _ begins rfl
    revert begins
    decide
  refine (Settles.run isBlank).bind (fun _ => list) fun member _ => ?_
  obtain ⟨_, left, begun, ended⟩ := mem_bind.mp member
  rcases mem_either.mp begun with present | absent
  · obtain ⟨_, _, read, _⟩ := mem_bind.mp present
    obtain ⟨_, _, named, _⟩ := mem_bind.mp read
    exact ends_name named
  · obtain ⟨_, rfl⟩ := Prod.mk.inj (List.mem_singleton.mp absent)
    exact solid (mem_ahead.mp ended).2

/-- The first letter of a keyword in either case, or a character that shares a case with it. -/
theorem begins_letter_or_alike {letter : Char} {letters among : List Char} (own : letter.toLower ∈ among)
    (alike : ∀ c ∈ ['ı', 'İ', 'ſ', '\u212a'], sameLetter letter c = true → c.toLower ∈ among) :
    (keyword (letter :: letters)).Begins (·.toLower ∈ among) := by
  refine Begins.keyword.mono fun c same => ?_
  by_cases plain : c.toLower = letter.toLower
  · rwa [plain]
  · refine alike c ?_ same
    simp only [sameLetter, Bool.or_eq_true, beq_iff_eq, plain, false_or] at same
    split at same
    · simp only [Bool.or_eq_true, beq_iff_eq] at same
      rcases same with rfl | rfl <;> decide
    · rw [eq_of_beq same]
      decide
    · rw [eq_of_beq same]
      decide
    · cases same

/-- The keywords of an index can be told by their first letters. -/
theorem settles_indexHead : indexHead.Settles fun _ => True := by
  have full : (keyword "FULLTEXT".toList).Begins (·.toLower ∈ ['f']) := begins_letter (by decide) (by decide)
  have spatial : (keyword "SPATIAL".toList).Begins (·.toLower ∈ ['s', 'ſ']) :=
    begins_letter_or_alike (by decide) (by decide)
  have key : (keyword "KEY".toList).Begins (·.toLower ∈ ['k', '\u212a']) :=
    begins_letter_or_alike (by decide) (by decide)
  have index : (keyword "INDEX".toList).Begins (·.toLower ∈ ['i', 'ı', 'İ']) :=
    begins_letter_or_alike (by decide) (by decide)
  have kinds : (either (keywordThenBlanks "FULLTEXT".toList) (keywordThenBlanks "SPATIAL".toList)).Begins
      (·.toLower ∈ ['f', 's', 'ſ']) :=
    (more_letters full.bind (by decide)).either (more_letters spatial.bind (by decide))
  have words : (either (keyword "KEY".toList) (keyword "INDEX".toList)).Begins
      (·.toLower ∈ ['k', '\u212a', 'i', 'ı', 'İ']) :=
    (more_letters key (by decide)).either (more_letters index (by decide))
  have kindsSettle : (either (keywordThenBlanks "FULLTEXT".toList) (keywordThenBlanks "SPATIAL".toList)).Settles
      (Ends isBlank) :=
    (settles_keywordThenBlanks _).either (settles_keywordThenBlanks _) fun member member' _ _ =>
      apart_of_letters full.bind spatial.bind (by decide) member member'
  have wordsSettle : (either (keyword "KEY".toList) (keyword "INDEX".toList)).Settles fun _ => True :=
    (Settles.keyword _).either (.keyword _) fun member member' _ _ =>
      apart_of_letters key index (by decide) member member'
  have keywords : indexKeywords.Settles fun _ => True :=
    kindsSettle.maybe_bind (fun _ => wordsSettle) (ends_of_letters (by decide) words)
      (apart_of_letters kinds words (by decide))
  exact keywords.bind (fun _ => settles_listHead) fun _ _ => trivial

/-- The head of an index that a text has, it has without the blanks at its end. -/
theorem first_indexHead_of_append (blank : ∀ c ∈ trail, isBlank c = true)
    (read : indexHead.first (core ++ trail) = some ((), rest)) :
    ∃ more, rest = '(' :: (more ++ trail) ∧ indexHead.first core = some ((), '(' :: more) := by
  have member : ((), rest) ∈ indexHead (core ++ trail) := List.mem_of_mem_head? read
  obtain ⟨words, split, any⟩ := peeks_indexHead _ _ _ member
  obtain ⟨more, opens⟩ : ∃ more, rest = '(' :: more := by
    obtain ⟨_, _, _, list⟩ := mem_bind.mp member
    obtain ⟨_, _, _, named⟩ := mem_bind.mp list
    obtain ⟨_, _, _, opening⟩ := mem_bind.mp named
    obtain ⟨same, head⟩ := mem_ahead.mp opening
    obtain ⟨_, rfl⟩ := Prod.mk.inj same
    exact List.head?_eq_some_iff.mp head
  subst opens
  have opening : Ends isBlank (words ++ ['(']).reverse := by
    rw [ends_reverse_append (List.cons_ne_nil _ _)]
    exact ends_cons.mpr (by decide)
  have whole : core ++ trail = (words ++ ['(']) ++ more := by simpa using split
  obtain ⟨left, rfl, rfl⟩ := exists_of_append_blank (by simp) opening blank whole
  obtain ⟨_, shorter⟩ := any ('(' :: left) rfl
  exact ⟨left, rfl, first_of_mem settles_indexHead (by simpa using shorter)⟩

/-! ### Lists of columns -/

/-- The column is what the identifier at the beginning of the item stands for. -/
def IsColumnOf (item column : Text) : Prop :=
  ∃ written left, item = written ++ left ∧ (identifier startsName).first item = some ((), left) ∧
    column = normalizeIdentifier written

/-- Each item of a list of columns gives one column. -/
theorem forall₂_columnList {list : Text} (columns : isColumnList list = true) :
    items list ≠ [] ∧ List.Forall₂ IsColumnOf (items list) (columnList list) := by
  simp only [isColumnList, Bool.and_eq_true, Bool.not_eq_true', List.isEmpty_eq_false_iff, ne_eq, List.map_eq_nil_iff,
    List.all_eq_true, List.mem_map, forall_exists_index, and_imp, forall_apply_eq_imp_iff₂] at columns
  obtain ⟨some', each⟩ := columns
  refine ⟨some', ?_⟩
  have solid : ∀ item ∈ items list, Solid item := fun item => solid_of_mem_pieces
  rw [columnList_eq_filterMap]
  generalize items list = entries at each solid
  induction entries with
  | nil => exact .nil
  | cons item entries ih =>
      obtain ⟨here, others⟩ := List.forall_mem_cons.mp each
      obtain ⟨trimmed, further⟩ := List.forall_mem_cons.mp solid
      rw [trimmed.trim_eq] at here
      obtain ⟨⟨_, left⟩, read⟩ := Option.isSome_iff_exists.mp here
      obtain ⟨written, split⟩ := identifier_leavesEnd _ _ _ (List.mem_of_mem_head? read)
      obtain rfl : item = written ++ left := split.symm
      have named : columnOf (written ++ left) = some (normalizeIdentifier written) := columnOf_eq trimmed.trim_eq read
      rw [List.filterMap_cons_some named]
      exact .cons ⟨written, left, rfl, read, rfl⟩ (ih others further)

/-! ### Definitions -/

theorem exists_of_index (index : classifyDefinition definition = .index) :
    ∃ list after, indexHead.first (trim definition) = some ((), '(' :: (list ++ ')' :: after)) ∧ Balanced list ∧
      isColumnList (trim list) = true := by
  obtain ⟨trail, split, blank⟩ := exists_trimLeft definition
  have defines : definesIndex (trim definition ++ trail) = true := by
    rw [← split]
    by_contra other
    simp only [classifyDefinition] at index
    cases decided : headKind (upper (trimLeft definition)) with
    | some kind =>
        have starts := headKind_eq_some_iff.mp decided
        rw [decided] at index
        obtain rfl : kind = .index := index
        cases starts
    | none =>
        rw [decided, if_neg other] at index
        cases index
  unfold definesIndex at defines
  split at defines
  · cases defines
  · rename_i rest read
    obtain ⟨more, rfl, head⟩ := first_indexHead_of_append blank read
    split at defines
    · cases defines
    · rename_i list after found
      obtain ⟨whole, balanced⟩ := enclosed_eq_some_iff.mp found
      have cut : more ++ trail = (list ++ [')']) ++ after := by simpa using whole
      have last : Ends isBlank (list ++ [')']).reverse := by
        rw [ends_reverse_append (List.cons_ne_nil _ _)]
        exact ends_cons.mpr (by decide)
      obtain ⟨left, rfl, _⟩ := exists_of_append_blank (by simp) last blank cut
      exact ⟨list, left, by simpa using head, balanced, defines⟩

/-- A definition is read or refused; what is classified as a constraint of a kind is read as one of this kind
if it is read, and what is classified as an index is read with a column for each item of its list. -/
theorem read_classified (definition : Text) :
    (classifyDefinition (splitName definition).2 = .check → checkHead.accepts (splitName definition).2 = true) ∧
    ((∃ constraint, Dialect.standard.constraint definition = .ok constraint ∧
        ∀ kind : ConstraintKind, classifyDefinition definition = kind.heading → constraint.kind = kind) ∨
      ∃ defect, Dialect.standard.constraint definition = .error (.defect defect)) ∧
    ((∃ column, Dialect.standard.column definition = .ok column) ∨
      ∃ defect, Dialect.standard.column definition = .error (.defect defect)) ∧
    (classifyDefinition definition = .index → ∃ index list after,
      Dialect.standard.indexDefinition definition = .ok index ∧
      indexHead.first (trim definition) = some ((), '(' :: (list ++ ')' :: after)) ∧ Balanced list ∧
      index.columns ≠ [] ∧ List.Forall₂ IsColumnOf (items (trim list)) index.columns) := by
  refine ⟨fun check => ?_, ?_, ?_, fun isIndex => ?_⟩
  · have starts : Starts ConstraintKind.check.heading (upper (splitName definition).2) :=
      starts_of_classifyDefinition (ends_of_splitName rfl) check
    exact starts.accepts_checkHead
  · rw [standard_constraint]
    cases outcome : constraintOutcome definition with
    | ok constraint => exact .inl ⟨constraint, rfl, fun kind same => constraintOutcome_kind same outcome⟩
    | error defect => exact .inr ⟨defect, rfl⟩
  · rw [standard_column]
    cases readColumn definition with
    | ok column => exact .inl ⟨column, rfl⟩
    | error defect => exact .inr ⟨defect, rfl⟩
  · obtain ⟨list, after, head, balanced, columns⟩ := exists_of_index isIndex
    obtain ⟨some', each⟩ := forall₂_columnList columns
    have read : ∃ name, Dialect.standard.indexDefinition definition =
        .ok { columns := columnList (trim list), name := name } := by
      rw [standard_indexDefinition, readIndexDefinition]
      dsimp only
      rw [head]
      simp only [columnsFrom, enclosed_eq_some_iff.mpr ⟨rfl, balanced⟩]
      exact ⟨_, rfl⟩
    obtain ⟨name, read⟩ := read
    refine ⟨_, list, after, read, head, balanced, fun empty => some' ?_, each⟩
    exact List.length_eq_zero_iff.mp (each.length_eq.trans (List.length_eq_zero_iff.mpr empty))

theorem read_classified_otherCase :
    checkHead.accepts (splitName "CONSTRAINT c Check (x > 0)".toList).2 = true ∧
    (∃ constraint, Dialect.standard.constraint "unıque (a)".toList = .ok constraint ∧ constraint.kind = .unique) ∧
    ∃ index, Dialect.standard.indexDefinition " Key k (a, \"b\" DESC) ".toList = .ok index ∧ index.columns.length = 2 := by
  refine ⟨(read_classified "CONSTRAINT c Check (x > 0)".toList).1 (by decide +kernel), ?_, ?_⟩
  · have accepted : (Dialect.standard.constraint "unıque (a)".toList).toBool = true := by decide +kernel
    rcases (read_classified "unıque (a)".toList).2.1 with ⟨constraint, read, kinds⟩ | ⟨defect, refused⟩
    · exact ⟨constraint, read, kinds .unique (by decide +kernel)⟩
    · rw [refused] at accepted
      cases accepted
  · obtain ⟨index, _, _, read, _⟩ :=
      (read_classified " Key k (a, \"b\" DESC) ".toList).2.2.2 (by decide +kernel)
    have computed : (Dialect.standard.indexDefinition " Key k (a, \"b\" DESC) ".toList).map (·.columns.length) = .ok 2 := by
      decide +kernel
    rw [read] at computed
    exact ⟨index, read, Except.ok.inj computed⟩

end Schemata.Ddl
