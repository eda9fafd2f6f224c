import Schemata.Proofs.Ddl.ColumnTypes
import Schemata.Proofs.Ddl.Parenthesized
import Schemata.Proofs.Ddl.WrittenConstraints
import Mathlib.Data.List.TakeDrop
import Mathlib.Data.List.TakeWhile

/-!
Column definitions give the column that is written: its type is taken whole, and each clause behind it is
found exactly if it is there.
-/

namespace Schemata.Ddl

open Text Script Reader

variable {text gap rest : Text}

/-! ### Types -/

namespace WrittenType

variable (type : WrittenType)

theorem text_eq : (type.text = type.word) ∨
    ∃ inside, type.text = type.word ++ '(' :: inside ++ [')'] ∧ ∀ c ∈ inside, isPlain c = true ∨ c = ',' := by
  rw [text]
  cases given : type.parameters with
  | none => exact .inl rfl
  | some parameters =>
      have plain := type.plainParameters
      rw [given] at plain
      refine .inr ⟨_, rfl, forall_mem_intercalate (by decide) fun parameter member c inside => ?_⟩
      exact .inl (plain parameter member c inside)

theorem solid : Solid type.text := by
  have word := Solid.of_unblank type.some' type.unblank
  rcases type.text_eq with same | ⟨inside, same, _⟩
  · rw [same]
    exact word
  · rw [same, List.append_assoc]
    refine ⟨by simp, word.first.append type.some' _, ?_⟩
    have closes : (type.word ++ ('(' :: inside ++ [')'])).reverse =
        ')' :: (type.word ++ '(' :: inside).reverse := by simp
    rw [closes]
    exact ends_cons.mpr (by decide)

theorem isLevel : IsLevel type.text := by
  have word := isLevel_of_isPlain type.plain
  rcases type.text_eq with same | ⟨inside, same, plain⟩
  · rw [same]
    exact word
  · rw [same, List.append_assoc]
    exact word.append (isInner_of_isPlain plain).isLevel

theorem exists_head : ∃ c more, type.text = c :: more ∧ isPlain c = true := by
  obtain ⟨c, more, same⟩ := List.exists_cons_of_ne_nil type.some'
  have plain := type.plain c (by rw [same]; exact List.mem_cons_self ..)
  rcases type.text_eq with whole | ⟨inside, whole, _⟩ <;> rw [whole, same] <;> exact ⟨c, _, rfl, plain⟩

theorem not_mark : type.text ∉ marks := by
  obtain ⟨c, more, same, plain⟩ := type.exists_head
  rw [same]
  intro mark
  rcases mem_marks.mp mark with same | same | same <;> cases same <;> exact absurd plain (by decide)

theorem not_opening (rest : Text) : (type.text ++ rest).head? ≠ some '(' := by
  obtain ⟨c, more, same, plain⟩ := type.exists_head
  rw [same]
  intro opening
  cases opening
  exact absurd plain (by decide)

/-- A plain text, even with commas, has no other mark. -/
theorem not_mem_of_plain {word : Text} {c : Char} (plain : ∀ d ∈ word, isPlain d = true ∨ d = ',')
    (mark : isPlain c = false) (comma : c ≠ ',') : c ∉ word := by
  intro member
  rcases plain c member with plain | same
  · rw [mark] at plain
    cases plain
  · exact comma same

theorem isTypeWord : IsTypeWord type.word :=
  have plain : ∀ c ∈ type.word, isPlain c = true ∨ c = ',' := fun c member => .inl (type.plain c member)
  ⟨type.some', type.unblank, not_mem_of_plain plain (by decide) (by decide), not_mem_of_plain plain (by decide) (by decide)⟩

/-- The type is taken whole, also where its first blank is within its parameters. -/
theorem isType : IsType type.text := by
  rcases type.text_eq with same | ⟨inside, same, within⟩
  · rw [same]
    exact type.isTypeWord.isType
  · have balanced : Balanced inside := balanced_of_nests (isInner_of_isPlain within).nests
    have closes : IsList inside := matchingParen_eq_some_iff.mpr ⟨inside, [], rfl, rfl, balanced⟩
    have unclosed : ')' ∉ inside.takeWhile fun c => !isBlank c := fun member =>
      not_mem_of_plain within (by decide) (by decide) ((List.takeWhile_prefix _).subset member)
    have kept : KeepsList inside := .inr (by rw [List.count_eq_zero.mpr unclosed]; exact Nat.zero_le _)
    rw [same]
    exact .list type.isTypeWord closes kept

end WrittenType

/-! ### Indexes -/

/-- A name may end after any of its characters. -/
theorem exists_of_mem_name {word left : Text} (named : ∀ c ∈ word, isNameChar c = true) (some' : word ≠ [])
    (apart : IsApart rest) (member : ((), left) ∈ name (word ++ rest)) :
    ∃ word', left = word' ++ rest ∧ ∀ c ∈ word', isNameChar c = true := by
  obtain ⟨c, word, rfl⟩ := List.exists_cons_of_ne_nil some'
  have here := named c (List.mem_cons_self ..)
  have undelimited : ∀ opening closing : Char, isNameChar opening = false →
      (delimited opening closing).Refuses (c :: word ++ rest) := by
    intro opening closing mark
    refine refuses_delimited fun same => ?_
    cases same
    rw [here] at mark
    cases mark
  rw [name, identifier, mem_either, mem_either, mem_either, undelimited _ _ (by decide), undelimited _ _ (by decide),
    undelimited _ _ (by decide)] at member
  have bare : ((), left) ∈ bareName startsNameAnyCase (c :: word ++ rest) := by simpa using member
  obtain ⟨d, mid, begun, more⟩ := mem_bind.mp bare
  obtain ⟨_, same⟩ := mem_char.mp begun
  obtain ⟨rfl, rfl⟩ := List.cons.inj same
  obtain ⟨cs, joined, continues⟩ := mem_run.mp more
  rcases List.append_eq_append_iff.mp joined with ⟨further, rfl, rest'⟩ | ⟨further, rfl, rfl⟩
  · cases further with
    | nil => exact ⟨[], by simpa using rest'.symm, List.forall_mem_nil _⟩
    | cons e further =>
        have inside := continues e (by simp)
        rw [nameEnds_of_isApart apart e (by rw [rest']; rfl)] at inside
        cases inside
  · refine ⟨further, rfl, fun e member => named e ?_⟩
    exact List.mem_cons_of_mem _ (List.mem_append_right _ member)

/-- The rest of a word and what is no parenthesis are not the head of a list. -/
theorem refuses_listHead {word : Text} (named : ∀ c ∈ word, isNameChar c = true) (some' : word ≠ [])
    (apart : IsApart rest) (other : (trimLeft rest).head? ≠ some '(') : listHead.Refuses (word ++ rest) := by
  have unopened : ∀ word : Text, (∀ c ∈ word, isNameChar c = true) → (trimLeft (word ++ rest)).head? ≠ some '(' := by
    intro word named
    cases word with
    | nil => exact other
    | cons c word =>
        have here := named c (List.mem_cons_self ..)
        rw [List.cons_append, trimLeft, (ends_cons.mpr (not_isBlank_of_isNameChar here)).dropWhile_eq]
        intro opening
        cases opening
        exact absurd here (by decide)
  have unblank : trimLeft (word ++ rest) = word ++ rest := by
    obtain ⟨c, word, rfl⟩ := List.exists_cons_of_ne_nil some'
    exact (ends_cons.mpr (not_isBlank_of_isNameChar (named c (List.mem_cons_self ..)))).dropWhile_eq
  refine refuses_bind fun _ left member => ?_
  obtain rfl : left = word ++ rest := by
    obtain ⟨cs, joined, blank⟩ := mem_run.mp member
    cases cs with
    | nil => exact joined.symm
    | cons d cs =>
        obtain ⟨c, word, rfl⟩ := List.exists_cons_of_ne_nil some'
        have solid := not_isBlank_of_isNameChar (named c (List.mem_cons_self ..))
        rw [(List.cons.inj joined).1, blank d (List.mem_cons_self ..)] at solid
        cases solid
  refine refuses_bind fun found mid optional => refuses_ahead fun opening => ?_
  -- A name that is taken is a part of the word, and no parenthesis follows on that part or on the whole word.
  rcases mem_either.mp optional with taken | skipped
  · obtain ⟨_, behind, inner, finish⟩ := mem_bind.mp taken
    obtain rfl := (Prod.mk.inj (List.mem_singleton.mp finish)).2
    obtain ⟨_, after, read, blanks⟩ := mem_bind.mp inner
    obtain ⟨word', rfl, named'⟩ := exists_of_mem_name named some' apart read
    obtain ⟨cs, joined, blank⟩ := mem_run.mp blanks
    have solid : Ends isBlank mid := by
      intro c head
      cases opening.symm.trans head
      decide
    refine unopened word' named' ?_
    rw [joined, trimLeft_append blank solid]
    exact opening
  · obtain rfl := (Prod.mk.inj (List.mem_singleton.mp skipped)).2
    refine unopened word named ?_
    rw [unblank]
    exact opening

/-- A name that is no keyword does not begin an index, although it may begin like one. -/
theorem refuses_indexHead (written : WrittenName) (apart : IsApart rest) (other : (trimLeft rest).head? ≠ some '(') :
    indexHead.Refuses (written.text ++ rest) := by
  have unprefixed : (either (keywordThenBlanks "FULLTEXT".toList) (keywordThenBlanks "SPATIAL".toList)).Refuses
      (written.text ++ rest) := by
    have seeks : ∀ {letters : Text}, (∀ c ∈ letters, c.isAlpha = true) → folded letters ∈ reserved →
        (keywordThenBlanks letters).Refuses (written.text ++ rest) := fun alpha keyword =>
      seeks_keyword alpha (fun _ starts => refuses_run1 (ends_isBlank_of_word starts)) _ _ written.isWord.wordly
        (wordEnds_of_isApart apart) (written.isWord.not_spelt (written.lacks keyword))
    exact (seeks (by decide) (by decide)).either (seeks (by decide) (by decide))
  have stuck : ∀ {letters left : Text}, (∀ c ∈ letters, c.isAlpha = true) → folded letters ∈ reserved →
      ((), left) ∈ keyword letters (written.text ++ rest) → listHead.Refuses left := by
    intro letters left alpha isKeyword member
    obtain ⟨read, more, same, rfl, fits⟩ := (keyword_readsWord alpha).exists_more (wordEnds_of_isApart apart) member
    cases more with
    | nil =>
        rw [List.append_nil] at same
        exact absurd (same ▸ fits) (written.isWord.not_spelt (written.lacks isKeyword))
    | cons c more =>
        refine refuses_listHead (fun d inside => written.plain d ?_) (List.cons_ne_nil _ _) apart other
        rw [same]
        exact List.mem_append_right _ inside
  refine refuses_bind fun _ left member => ?_
  obtain ⟨_, mid, optional, member⟩ := mem_bind.mp member
  rcases mem_either.mp optional with taken | skipped
  · obtain ⟨_, _, prefixed, _⟩ := mem_bind.mp taken
    rw [unprefixed] at prefixed
    cases prefixed
  · obtain rfl := (Prod.mk.inj (List.mem_singleton.mp skipped)).2
    rcases mem_either.mp member with key | index
    · exact stuck (by decide) (by decide) key
    · exact stuck (by decide) (by decide) index

/-! ### Clauses -/

section Clauses

variable {α : Type} {reader : Reader α} {letters : Text} {words before after : List Text} {present : Bool}

theorem Lacks.clause (lacks : Lacks letters words) (present : Bool) : Lacks letters (clause present words) := by
  cases present with
  | true => exact lacks
  | false => exact List.forall_mem_nil _

theorem lacks_referenceClause {references : Option (WrittenName × WrittenName)} (keyword : folded letters ∈ reserved)
    (other : folded "REFERENCES".toList ≠ folded letters) : Lacks letters (referenceClause references) := by
  cases references with
  | none => exact List.forall_mem_nil _
  | some names =>
      obtain ⟨table, referenced⟩ := names
      have isWord : IsWord "REFERENCES".toList := by decide
      simp only [Lacks, referenceClause, listTokens, List.map_cons, List.map_nil, List.intercalate_singleton,
        List.cons_append, List.nil_append, List.forall_mem_cons]
      exact ⟨.inr ⟨isWord, other⟩, .inr ⟨table.isWord, table.lacks keyword⟩, .inl (by decide),
        .inr ⟨referenced.isWord, referenced.lacks keyword⟩, .inl (by decide), List.forall_mem_nil _⟩

/-- A search for the first word of a clause tells whether the clause is there. -/
theorem isSome_find (seeks : reader.Seeks letters) (some' : letters ≠ []) (lacks : Lacks letters before)
    (lacks' : Lacks letters after) {word : Text} {more : List Text} (isWord : IsWord word)
    (reads : ∀ {text}, Spells (word :: more ++ after) text → ∃ found, reader.first text = some found)
    (spelled : Spells (before ++ (clause present (word :: more) ++ after)) text) :
    (reader.find false text).isSome = present := by
  cases present with
  | false =>
      rw [find_eq_none seeks some' (lacks.append lacks') spelled]
      rfl
  | true =>
      obtain ⟨rest, here, found⟩ := find_eq_first seeks some' lacks isWord spelled
      obtain ⟨result, read⟩ := reads here
      rw [found result read]
      rfl

theorem seeks_wholeKeywords {one other : Text} (alpha : ∀ c ∈ one, c.isAlpha = true) :
    (wholeKeywords one other).Seeks one :=
  (seeks_keyword alpha fun _ => refuses_blanks1_in_word).bind

theorem seeks_unique : (do keyword "UNIQUE".toList; wordEnd : Reader Unit).Seeks "UNIQUE".toList :=
  seeks_keyword (by decide) fun _ => refuses_wordEnd

theorem seeks_inlineReference : inlineReference.Seeks "REFERENCES".toList :=
  (seeks_keyword (by decide) fun _ starts => refuses_run1 (ends_isBlank_of_word starts)).bind

theorem seeks_checkHead : checkHead.Seeks "CHECK".toList :=
  seeks_keyword (by decide) fun _ => refuses_opening_in_word

theorem exists_first_wholeKeywords {one other : Text} (isWord : IsWord one) (isWord' : IsWord other)
    (spelled : Spells ([one, other] ++ after) text) :
    ∃ found, (wholeKeywords one other).first text = some found := by
  obtain ⟨gap, gap', rest, rfl, blank, distinct, _, _, apart, _⟩ := exists_of_spells_words isWord isWord' spelled
  have ends := startsWithWord_eq_false_iff.mpr (wordEnds_of_isApart apart)
  exact ⟨_, first_bind (first_keywords blank distinct (isWord'.ends_append _))
    (first_wordEnd ends)⟩

theorem exists_first_unique (spelled : Spells (["UNIQUE".toList] ++ after) text) :
    ∃ found, (do keyword "UNIQUE".toList; wordEnd : Reader Unit).first text = some found := by
  have isWord : IsWord "UNIQUE".toList := by decide
  obtain ⟨gap, rest, rfl, _, _, apart, _⟩ := spelled.uncons
  have ends := startsWithWord_eq_false_iff.mpr (wordEnds_of_isApart (apart isWord.not_mark))
  exact ⟨_, first_bind (first_keyword ..) (first_wordEnd ends)⟩

/-- A reference is read with its table and its column. -/
theorem exists_first_inlineReference {table referenced : WrittenName}
    (spelled : Spells ("REFERENCES".toList :: table.text :: listTokens [referenced]) text) :
    ∃ list rest, inlineReference.first text = some ((table.text, list), rest) ∧
      columnList list = [referenced.name] := by
  have isWord : IsWord "REFERENCES".toList := by decide
  obtain ⟨gap, gap', rest, rfl, blank, distinct, blank', list, apart, _⟩ :=
    exists_of_spells_words isWord table.isWord spelled
  obtain ⟨before, rest, rfl, blankBefore, list, _⟩ := list.uncons
  obtain ⟨behind, rest, rfl, blankBehind, list, _⟩ := list.uncons
  obtain ⟨final, rest, rfl, _, ended, _⟩ := list.uncons
  cases ended
  have closed : ∀ c ∈ before ++ (referenced.text ++ behind), (c != ')') = true := by
    have plain : ∀ c, isPlain c = true → (c != ')') = true := by
      intro c plain
      simp only [isPlain, Bool.and_eq_true] at plain
      exact plain.1.2
    refine List.forall_mem_append.mpr ⟨?_, List.forall_mem_append.mpr ⟨?_, ?_⟩⟩
    · exact fun c member => plain c (isPlain_of_isBlank (blankBefore c member))
    · exact fun c member => plain c (isPlain_of_isNameChar (referenced.plain c member))
    · exact fun c member => plain c (isPlain_of_isBlank (blankBehind c member))
  have names : columnList (before ++ (referenced.text ++ behind)) = [referenced.name] := by
    have inside : Spells ([[',']].intercalate ([referenced].map fun written => [written.text]))
        (referenced.text ++ (behind ++ [])) := .cons blankBehind (fun _ => .inr (by simp)) .nil
    rw [List.append_nil] at inside
    exact columnList_of_spells inside blankBefore
  have shape : ['('] ++ (before ++ (referenced.text ++ (behind ++ ([')'] ++ (final ++ []))))) =
      '(' :: ((before ++ (referenced.text ++ behind)) ++ ')' :: final) := by simp
  rw [shape] at apart ⊢
  have alone : (trimLeft (gap' ++ '(' :: ((before ++ (referenced.text ++ behind)) ++ ')' :: final))).head? ≠
      some '.' := by
    rw [trimLeft_append blank' (ends_cons.mpr (by decide))]
    simp
  refine ⟨before ++ (referenced.text ++ behind), final, ?_, names⟩
  refine first_bind (first_bind (first_keyword ..) (first_blanks1 blank distinct (table.isWord.ends_append _))) ?_
  refine first_bind (first_captured (table.first_qualifiedName (nameEnds_of_isApart apart) alone)) ?_
  refine first_bind (first_blanks blank' (ends_cons.mpr (by decide))) ?_
  refine first_bind (first_maybe (first_parenthesized closed final)) ?_
  rw [Span.text_append]
  rfl

end Clauses

namespace WrittenColumn

variable (column : WrittenColumn)

theorem isTidy_clauses : IsTidy column.clauses := by
  have word : ∀ {present : Bool} {words : List Text}, IsTidy words → IsTidy (clause present words) := by
    intro present words tidy
    cases present with
    | true => exact tidy
    | false => exact isTidy_nil
  have negation : IsTidy ["NOT".toList] := IsWord.isTidy (by decide)
  have nothing : IsTidy ["NULL".toList] := IsWord.isTidy (by decide)
  have primary : IsTidy ["PRIMARY".toList] := IsWord.isTidy (by decide)
  have key : IsTidy ["KEY".toList] := IsWord.isTidy (by decide)
  have single : IsTidy ["UNIQUE".toList] := IsWord.isTidy (by decide)
  have refers : IsTidy ["REFERENCES".toList] := IsWord.isTidy (by decide)
  have reference : IsTidy (referenceClause column.references) := by
    cases column.references with
    | none => exact isTidy_nil
    | some names => exact refers.cons (names.1.isWord.isTidy.cons (isTidy_listTokens [names.2]))
  exact (word (negation.cons nothing)).append ((word (primary.cons key)).append ((word single).append reference))

theorem isItem : IsItem column.tokens where
  toIsTidy := column.name.isWord.isTidy.cons
    ((isTidy_singleton column.type.solid column.type.isLevel).cons column.isTidy_clauses)
  some' := List.cons_ne_nil _ _

theorem references_eq (spelled : Spells column.clauses text) :
    (inlineReference.find false text).map (fun ((table, columns), _) =>
      (normalizeIdentifier table, columnList columns)) =
        column.references.map fun (table, referenced) => (table.name, [referenced.name]) := by
  have lacks : Lacks "REFERENCES".toList (clause column.notNull ["NOT".toList, "NULL".toList] ++
      (clause column.primaryKey ["PRIMARY".toList, "KEY".toList] ++ clause column.unique ["UNIQUE".toList])) :=
    (Lacks.clause (by decide) _).append
      ((Lacks.clause (by decide) _).append (Lacks.clause (by decide) _))
  rw [clauses, ← List.append_assoc, ← List.append_assoc, List.append_assoc (clause column.notNull _)] at spelled
  cases given : column.references with
  | none =>
      rw [given, referenceClause, List.append_nil] at spelled
      rw [find_eq_none seeks_inlineReference (by decide) lacks spelled]
      rfl
  | some names =>
      obtain ⟨table, referenced⟩ := names
      rw [given] at spelled
      obtain ⟨rest, here, found⟩ := find_eq_first seeks_inlineReference (by decide) lacks (by decide) spelled
      obtain ⟨list, left, read, names⟩ := exists_first_inlineReference here
      rw [found _ read]
      exact congrArg some (Prod.ext table.normalizeIdentifier_text names)

/-- The clauses behind the type tell the constraints of the column. -/
theorem readColumnConstraints_eq (spelled : Spells column.clauses text) (blank : ∀ c ∈ gap, isBlank c = true) :
    readColumnConstraints column.name.name column.type.text (gap ++ text) = column.definition := by
  have passes : ∀ {α : Type} {reader : Reader α} {letters : Text}, reader.Seeks letters → letters ≠ [] →
      reader.find false (gap ++ text) = reader.find false text := by
    intro α reader letters seeks some'
    rw [find_gap seeks some' blank, Bool.and_false]
  have seeksNot : (wholeKeywords "NOT".toList "NULL".toList).Seeks "NOT".toList := seeks_wholeKeywords (by decide)
  have seeksPrimary : (wholeKeywords "PRIMARY".toList "KEY".toList).Seeks "PRIMARY".toList :=
    seeks_wholeKeywords (by decide)
  have lacksReference : ∀ {letters : Text}, folded letters ∈ reserved → folded "REFERENCES".toList ≠ folded letters →
      Lacks letters (referenceClause column.references) := lacks_referenceClause
  have notNull : ((wholeKeywords "NOT".toList "NULL".toList).find false text).isSome = column.notNull := by
    have after : Lacks "NOT".toList (clause column.primaryKey ["PRIMARY".toList, "KEY".toList] ++
        (clause column.unique ["UNIQUE".toList] ++ referenceClause column.references)) :=
      (Lacks.clause (by decide) _).append
        ((Lacks.clause (by decide) _).append (lacksReference (by decide) (by decide)))
    exact isSome_find seeksNot (by decide) (List.forall_mem_nil _) after (by decide)
      (exists_first_wholeKeywords (by decide) (by decide)) spelled
  have primaryKey : ((wholeKeywords "PRIMARY".toList "KEY".toList).find false text).isSome = column.primaryKey := by
    have before : Lacks "PRIMARY".toList (clause column.notNull ["NOT".toList, "NULL".toList]) :=
      Lacks.clause (by decide) _
    have after : Lacks "PRIMARY".toList (clause column.unique ["UNIQUE".toList] ++
        referenceClause column.references) :=
      (Lacks.clause (by decide) _).append (lacksReference (by decide) (by decide))
    exact isSome_find seeksPrimary (by decide) before after (by decide)
      (exists_first_wholeKeywords (by decide) (by decide)) spelled
  have unique : ((do keyword "UNIQUE".toList; wordEnd : Reader Unit).find false text).isSome = column.unique := by
    have before : Lacks "UNIQUE".toList (clause column.notNull ["NOT".toList, "NULL".toList] ++
        clause column.primaryKey ["PRIMARY".toList, "KEY".toList]) :=
      (Lacks.clause (by decide) _).append (Lacks.clause (by decide) _)
    have whole := spelled
    rw [clauses, ← List.append_assoc] at whole
    exact isSome_find seeks_unique (by decide) before (lacksReference (by decide) (by decide)) (by decide)
      exists_first_unique whole
  have unchecked : checkHead.find false text = none := by
    have lacks : Lacks "CHECK".toList column.clauses :=
      (Lacks.clause (by decide) _).append ((Lacks.clause (by decide) _).append
        ((Lacks.clause (by decide) _).append (lacksReference (by decide) (by decide))))
    exact find_eq_none seeks_checkHead (by decide) lacks spelled
  rw [readColumnConstraints, passes seeksNot (by decide), notNull, passes seeksPrimary (by decide), primaryKey,
    passes seeks_unique (by decide), unique, passes seeks_inlineReference (by decide), column.references_eq spelled,
    passes seeks_checkHead (by decide), unchecked]
  rfl

/-- The tokens do not begin with a mark. -/
def BeginsPlain (tokens : List Text) : Prop :=
  ∀ token ∈ tokens.head?, token ∉ marks

theorem BeginsPlain.append {one other : List Text} (begins : BeginsPlain one) (begins' : BeginsPlain other) :
    BeginsPlain (one ++ other) := by
  cases one with
  | nil => exact begins'
  | cons => exact begins

theorem beginsPlain_clauses : BeginsPlain column.clauses := by
  have word : ∀ (present : Bool) {word : Text} {words : List Text}, word ∉ marks →
      BeginsPlain (clause present (word :: words)) := by
    intro present word words plain token head
    cases present with
    | false => cases head
    | true =>
        cases head
        exact plain
  have reference : BeginsPlain (referenceClause column.references) := by
    intro token head
    cases given : column.references with
    | none =>
        rw [given] at head
        cases head
    | some names =>
        rw [given] at head
        cases head
        decide
  exact (word _ (by decide)).append ((word _ (by decide)).append
    ((word _ (by decide)).append reference))

/-- The name, the type and the clauses of a column with what stands between them. -/
theorem exists_parts (spelled : Spells column.tokens text) :
    ∃ gap gap' rest, text = column.name.text ++ (gap ++ (column.type.text ++ (gap' ++ rest))) ∧
      (∀ c ∈ gap, isBlank c = true) ∧ gap ≠ [] ∧ (∀ c ∈ gap', isBlank c = true) ∧ Spells column.clauses rest ∧
      Ends (fun c => !isBlank c) (gap' ++ rest) := by
  obtain ⟨gap, rest, rfl, blank, further, _, distinct⟩ := spelled.uncons
  obtain ⟨gap', rest, rfl, blank', clauses, _, distinct'⟩ := further.uncons
  refine ⟨gap, gap', rest, rfl, blank, distinct column.name.isWord.not_mark ⟨_, rfl, column.type.not_mark⟩, blank',
    clauses, ?_⟩
  cases gap' with
  | cons c gap' => exact ends_cons.mpr (by rw [blank' c (List.mem_cons_self ..)]; rfl)
  | nil =>
      -- Without a blank behind the type there is no clause.
      have last : column.clauses = [] := by
        cases listed : column.clauses with
        | nil => rfl
        | cons token tokens =>
            have head : token ∉ marks := column.beginsPlain_clauses token (by rw [listed]; rfl)
            exact absurd rfl (distinct' column.type.not_mark ⟨token, by rw [listed]; rfl, head⟩)
      rw [last] at clauses
      cases clauses
      exact ends_nil

theorem readColumn_eq (spelled : Spells column.tokens text) : readColumn text = .ok column.definition := by
  obtain ⟨gap, gap', rest, trimmed, blank, distinct, blank', clauses, ends⟩ :=
    column.exists_parts (spelled.trimmed column.isItem.solid)
  obtain ⟨word, left, whole, some', unblank, ends', split⟩ := column.type.isType.exists_word ends
  rw [whole] at trimmed
  have read := readColumn_of_split column.name.isIdentifier blank distinct some' unblank ends' trimmed split
  have level : IsLevel gap' := isLevel_of_isPlain fun c member => isPlain_of_isBlank (blank' c member)
  have quoteless := not_isQuote_of_nests ((level.append (clauses.isLevel column.isTidy_clauses.level)).nests true)
  have unquoted : '\'' ∉ gap' ++ rest := fun member => absurd (quoteless _ member) (by decide)
  rw [read, withoutLiterals_of_not_mem unquoted, column.name.normalizeIdentifier_text,
    column.readColumnConstraints_eq clauses blank']

/-- A column is no index, whatever its name begins with. -/
theorem definesIndex_eq_false (spelled : Spells column.tokens text) : definesIndex text = false := by
  obtain ⟨gap, gap', rest, rfl, blank, distinct, _⟩ := column.exists_parts spelled
  have apart := isApart_gap blank distinct (column.type.text ++ (gap' ++ rest))
  have other : (trimLeft (gap ++ (column.type.text ++ (gap' ++ rest)))).head? ≠ some '(' := by
    rw [trimLeft_append blank (column.type.solid.first.append column.type.solid.some' _)]
    exact column.type.not_opening _
  have refuses := refuses_indexHead column.name apart other
  rw [definesIndex, refuses.first]

theorem readEntry_eq (spelled : Spells column.tokens text) :
    readEntry Dialect.standard text = .ok (.column column.definition) := by
  have classified : classifyDefinition text = .column := by
    have left : trimLeft text = text := (spelled.ends column.isItem.solid).dropWhile_eq
    have unheaded : headKind (upper text) = none := by
      obtain ⟨gap, gap', rest, rfl, blank, distinct, _⟩ := column.exists_parts spelled
      exact headKind_of_name column.name (isApart_gap blank distinct _)
    simp only [classifyDefinition, left, unheaded, column.definesIndex_eq_false spelled, Bool.false_eq_true, if_false]
  have standard : Dialect.standard.classifyDefinition text = .ok .column := congrArg Except.ok classified
  have read : Dialect.standard.column text = .ok column.definition :=
    congrArg Dialect.ofDefect (column.readColumn_eq spelled)
  rw [readEntry, standard]
  simp only [bind, Except.bind, read]
  rfl

end WrittenColumn

end Schemata.Ddl
