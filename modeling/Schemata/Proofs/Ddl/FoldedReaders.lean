import Schemata.Ddl.Dialect
import Schemata.Proofs.Ddl.Literals
import Schemata.Proofs.Reader.Folded
import Schemata.Proofs.Script.Pieces

/-!
The readers of statements and definitions do not see the case of ASCII letters: keywords are read in
either case, and identifiers begin with small letters and with capitals alike.
-/

namespace Schemata.Ddl

open Reader Text

/-! ### Identifiers -/

theorem startsName_caseBlind : CaseBlind startsName :=
  caseBlind_of_capitals (by decide)

theorem startsNameAnyCase_caseBlind : CaseBlind startsNameAnyCase :=
  caseBlind_of_capitals (by decide)

theorem continuesName_caseBlind : CaseBlind continuesName :=
  caseBlind_of_capitals (by decide)

theorem char_folds {c : Char} (caseless : Caseless c) :
    Folds Char.toLower (char (· == c)) (char (· == c)) :=
  .char caseless.toLower_beq

theorem delimited_blind {opening closing : Char} (opens : Caseless opening) (closes : Caseless closing) :
    Blind (delimited opening closing) := by
  have inside : CaseBlind (· != closing) := fun c => congrArg (!·) (closes.toLower_beq c)
  exact (char_folds opens).bind fun _ => (Blind.run1 inside).bind fun _ =>
    (char_folds closes).bind fun _ => Blind.pure

theorem identifier_blind {starts : Char → Bool} (blind : CaseBlind starts) : Blind (identifier starts) := by
  have bare : Blind (bareName starts) := (Folds.char blind).bind fun _ => Blind.run continuesName_caseBlind
  exact .either (delimited_blind rfl rfl) <|
    .either (delimited_blind rfl rfl) <|
      .either (delimited_blind rfl rfl) bare

theorem name_blind : Blind name :=
  identifier_blind startsNameAnyCase_caseBlind

theorem qualifiedName_blind : Blind qualifiedName := by
  have dot : Caseless '.' := rfl
  exact name_blind.bind fun _ => Blind.repeated <| Blind.blanks.bind fun _ => (char_folds dot).bind fun _ =>
    Blind.blanks.bind fun _ => name_blind

theorem unquoted_folded (written : Text) : unquoted (folded written) = folded (unquoted written) := by
  have opens : CaseBlind opensQuoted := caseBlind_of_capitals (by decide)
  cases written with
  | nil => rfl
  | cons c rest =>
      simp only [folded_cons, unquoted, opens c, isEmpty_folded]
      split
      · exact List.map_dropLast.symm
      · rfl

/-- An identifier stands for the same name in either case. -/
@[simp] theorem normalizeIdentifier_folded (written : Text) :
    normalizeIdentifier (folded written) = normalizeIdentifier written := by
  unfold normalizeIdentifier
  dsimp only
  rw [trim_folded, (identifier_blind startsName_caseBlind).captured.all, List.getLast?_map, Option.map_map]
  have last : (((captured (identifier startsName)).all (trim written)).getLast?.map
      (Span.text ∘ Span.folded)).getD (folded (trim written)) =
      folded ((((captured (identifier startsName)).all (trim written)).getLast?.map Span.text).getD
        (trim written)) := by
    cases ((captured (identifier startsName)).all (trim written)).getLast? with
    | none => rfl
    | some span => exact Span.text_folded span
  rw [last, unquoted_folded, trim_folded, lower_folded]

theorem columnList_folded (list : Text) : columnList (folded list) = columnList list := by
  rw [columnList, columnList, Script.items_folded, List.filterMap_map]
  refine congrArg (List.filterMap · (Script.items list)) (funext fun item => ?_)
  rw [Function.comp_apply, trim_folded, (identifier_blind startsName_caseBlind).captured.first, Option.map_map]
  refine congrArg (Option.map · _) (funext fun way => ?_)
  simp only [Function.comp_apply, Span.text_folded, normalizeIdentifier_folded]

/-! ### Statements -/

theorem opening_blind : Blind (ahead '(') :=
  Blind.ahead rfl

theorem keywordThenBlanks_blind (letters : Text) : Blind (keywordThenBlanks letters) :=
  (Blind.keyword letters).bind fun _ => Blind.blanks1

theorem keywordsThenBlanks_blind (one other : Text) : Blind (keywordsThenBlanks one other) :=
  (keywordThenBlanks_blind one).bind fun _ => keywordThenBlanks_blind other

theorem ifNotExists_blind : Blind ifNotExists :=
  (keywordThenBlanks_blind _).bind fun _ => (keywordThenBlanks_blind _).bind fun _ => keywordThenBlanks_blind _

theorem temporary_blind : Blind temporary :=
  .either ((Blind.keyword _).bind fun _ => (Blind.keyword _).maybe.bind fun _ => Blind.blanks1)
    (keywordThenBlanks_blind _)

theorem createTableKeywords_blind : Blind createTableKeywords :=
  (keywordThenBlanks_blind _).bind fun _ => (keywordsThenBlanks_blind _ _).maybe.bind fun _ =>
    (Folds.either (keywordThenBlanks_blind _) (keywordThenBlanks_blind _)).maybe.bind fun _ =>
      temporary_blind.maybe.bind fun _ => Blind.keyword _

theorem clustering_blind : Blind clustering :=
  .either (keywordThenBlanks_blind _) (keywordThenBlanks_blind _)

theorem createIndexKeywords_folds : Folds id createIndexKeywords createIndexKeywords :=
  (keywordThenBlanks_blind _).bind fun _ => (keywordThenBlanks_blind _).maybe.bind fun _ =>
    clustering_blind.maybe.bind fun _ => (Blind.keyword _).bind fun _ => .pure (by simp)

/-- The kind of a statement does not depend on the case of its letters. -/
theorem classify_folded (statement : Text) : classify (folded statement) = classify statement := by
  have table : Blind (do createTableKeywords; wordEnd) := createTableKeywords_blind.bind fun _ => Blind.wordEnd
  have alter : Blind (do keywords "ALTER".toList "TABLE".toList; wordEnd) :=
    (Blind.keywords _ _).bind fun _ => Blind.wordEnd
  have index : Blind (do let _ ← createIndexKeywords; wordEnd) :=
    createIndexKeywords_folds.bind fun _ => Blind.wordEnd
  unfold classify
  dsimp only
  rw [trimLeft_folded, table.accepts, alter.accepts, index.accepts]

theorem createTableHead_folds : Folds folded createTableHead createTableHead :=
  createTableKeywords_blind.bind fun _ => Blind.blanks1.bind fun _ => ifNotExists_blind.maybe.bind fun _ =>
    qualifiedName_blind.captured.bind fun table => Blind.blanks.bind fun _ =>
      opening_blind.bind fun _ => .pure (Span.text_folded table).symm

theorem alterTableHead_folds : Folds folded alterTableHead alterTableHead :=
  (keywordsThenBlanks_blind _ _).bind fun _ => (keywordsThenBlanks_blind _ _).maybe.bind fun _ =>
    (keywordThenBlanks_blind _).maybe.bind fun _ => qualifiedName_blind.captured.bind fun table =>
      Blind.blanks1.bind fun _ => .pure (Span.text_folded table).symm

theorem addedPart_folded (action : Text) : addedPart (folded action) = (addedPart action).map folded := by
  rw [addedPart, addedPart, (keywordThenBlanks_blind _).first, Option.map_map, Option.map_map]
  rfl

def IndexHead.folded (head : IndexHead) : IndexHead :=
  { head with name := head.name.map Text.folded, table := Text.folded head.table }

theorem createIndexHead_folds : Folds IndexHead.folded createIndexHead createIndexHead := by
  have written : Folds Span.folded (do let written ← captured qualifiedName; blanks1; return written)
      (do let written ← captured qualifiedName; blanks1; return written) :=
    qualifiedName_blind.captured.bind fun _ => Blind.blanks1.bind fun _ => .pure rfl
  have method : Blind (do keywordThenBlanks "USING".toList; run1 isWordChar; blanks) :=
    (keywordThenBlanks_blind _).bind fun _ => (Blind.run1 isWordChar_caseBlind).bind fun _ => Blind.blanks
  exact createIndexKeywords_folds.bind fun unique => Blind.blanks1.bind fun _ =>
    (keywordThenBlanks_blind _).maybe.bind fun _ => ifNotExists_blind.maybe.bind fun _ =>
      written.maybe.bind fun index => (keywordThenBlanks_blind _).bind fun _ =>
        (keywordThenBlanks_blind _).maybe.bind fun _ => qualifiedName_blind.captured.bind fun table =>
          Blind.blanks.bind fun _ => method.maybe.bind fun _ =>
            opening_blind.bind fun _ => .pure (by cases index <;> simp [IndexHead.folded])

/-! ### Definitions -/

theorem indexKeywords_blind : Blind indexKeywords :=
  (Folds.either (keywordThenBlanks_blind _) (keywordThenBlanks_blind _)).maybe.bind fun _ =>
    .either (Blind.keyword _) (Blind.keyword _)

theorem listHead_blind : Blind listHead :=
  Blind.blanks.bind fun _ => (name_blind.bind fun _ => Blind.blanks).maybe.bind fun _ =>
    opening_blind

theorem indexHead_blind : Blind indexHead :=
  indexKeywords_blind.bind fun _ => listHead_blind

theorem indexName_folds : Folds folded indexName indexName :=
  indexKeywords_blind.bind fun _ => Blind.blanks1.bind fun _ => name_blind.captured.bind fun written =>
    Blind.blanks.bind fun _ => opening_blind.bind fun _ =>
      .pure (Span.text_folded written).symm

theorem namedConstraint_folds : Folds folded namedConstraint namedConstraint :=
  (keywordThenBlanks_blind _).bind fun _ => name_blind.captured.bind fun written =>
    Blind.blanks1.bind fun _ => .pure (Span.text_folded written).symm

theorem primaryKeyHead_blind : Blind primaryKeyHead := by
  have clustered : Blind (do either (keyword "CLUSTERED".toList) (keyword "NONCLUSTERED".toList); blanks) :=
    (Folds.either (Blind.keyword _) (Blind.keyword _)).bind fun _ => Blind.blanks
  exact (Blind.keywords _ _).bind fun _ => Blind.blanks.bind fun _ => clustered.maybe.bind fun _ =>
    opening_blind

theorem foreignKeyHead_blind : Blind foreignKeyHead :=
  (Blind.keywords _ _).bind fun _ => listHead_blind

theorem referencesClause_folds : Folds folded referencesClause referencesClause :=
  Blind.blanks.bind fun _ => (keywordThenBlanks_blind _).bind fun _ =>
    qualifiedName_blind.captured.bind fun table => Blind.blanks.bind fun _ =>
      .pure (Span.text_folded table).symm

theorem uniqueHead_blind : Blind uniqueHead := by
  have key : Blind (do blanks1; either (keyword "KEY".toList) (keyword "INDEX".toList)) :=
    Blind.blanks1.bind fun _ => .either (Blind.keyword _) (Blind.keyword _)
  exact (Blind.keyword _).bind fun _ => key.maybe.bind fun _ => listHead_blind

theorem checkHead_blind : Blind checkHead :=
  (Blind.keyword _).bind fun _ => Blind.blanks.bind fun _ => opening_blind

theorem columnHead_folds :
    Folds (fun spans => (spans.1.folded, spans.2.folded)) columnHead columnHead := by
  have unblank : CaseBlind fun c => !isBlank c := fun c => congrArg (!·) (isBlank_caseBlind c)
  exact (identifier_blind startsName_caseBlind).captured.bind fun written => Blind.blanks1.bind fun _ =>
    (Blind.run1 unblank).captured.bind fun word => .pure rfl

theorem wholeKeywords_blind (one other : Text) : Blind (wholeKeywords one other) :=
  (Blind.keywords _ _).bind fun _ => Blind.wordEnd

theorem parenthesized_folds : Folds folded parenthesized parenthesized := by
  have opening : Caseless '(' := rfl
  have closing : Caseless ')' := rfl
  have inside : CaseBlind (· != ')') := fun c => congrArg (!·) (closing.toLower_beq c)
  exact (char_folds opening).bind fun _ => (Blind.run inside).captured.bind fun span =>
    (char_folds closing).bind fun _ => .pure (Span.text_folded span).symm

theorem inlineReference_folds :
    Folds (fun (table, columns) => (folded table, folded columns)) inlineReference inlineReference :=
  (keywordThenBlanks_blind _).bind fun _ => qualifiedName_blind.captured.bind fun table =>
    Blind.blanks.bind fun _ => parenthesized_folds.maybe.bind fun columns => .pure (by
      cases columns <;> simp)

theorem afterLiteral_folded (text : Text) : afterLiteral (folded text) = (afterLiteral text).map folded := by
  have quote : Caseless '\'' := rfl
  fun_induction afterLiteral text with
  | case1 => rfl
  | case2 rest ih =>
      have next : afterLiteral (folded ('\'' :: '\'' :: rest)) =
          (afterLiteral (folded rest) <|> some ('\'' :: folded rest)) := by
        rw [folded_cons, folded_cons, quote.toLower_eq_iff.mpr rfl, afterLiteral]
      rw [next, ih]
      cases afterLiteral rest <;> rfl
  | case3 rest single =>
      rw [folded_cons, quote.toLower_eq_iff.mpr rfl, afterLiteral]
      · rfl
      · intro after next
        obtain ⟨later, rfl, _⟩ := (Script.folded_eq_cons quote).mp next
        exact single later rfl
  | case4 c rest other last ih =>
      rw [folded_cons, afterLiteral, ih]
      · exact fun _ same _ => last (quote.toLower_eq_iff.mp same)
      · exact fun same => last (quote.toLower_eq_iff.mp same)

theorem literal_blind : Blind literal := by
  have quote : Caseless '\'' := rfl
  intro text
  cases text with
  | nil => rfl
  | cons c rest =>
      by_cases opens : c = '\''
      · subst opens
        rw [folded_cons, quote.toLower_eq_iff.mpr rfl, literal, literal, afterLiteral_folded]
        cases afterLiteral rest <;> rfl
      · have closed : c.toLower ≠ '\'' := fun same => opens (quote.toLower_eq_iff.mp same)
        rw [folded_cons, literal, literal]
        · rfl
        · exact fun _ same => opens (List.cons.inj same).1
        · exact fun _ same => closed (List.cons.inj same).1

theorem withoutLiterals_folded (text : Text) : withoutLiterals (folded text) = folded (withoutLiterals text) :=
  literal_blind.replaced (by decide) text

end Schemata.Ddl
