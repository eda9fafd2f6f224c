import Schemata.Ddl.Reading
import Schemata.Proofs.Ddl.FirstWords
import Schemata.Proofs.Ddl.TableBody
import Schemata.Proofs.Script.Separated

/-!
What the actions of an `ALTER TABLE` statement give, one by one and in their order. A clause that adds a
constraint gives it or a warning. The other actions give nothing, except for those that add something the
classification of definitions knows, though it is no constraint.
-/

namespace Schemata.Ddl

open Text Script Reader

variable {statement action definition written actions text rest : Text} {name : Option Text} {kind : ConstraintKind}

/-! ### Clauses -/

/-- The definition stands behind the word `ADD`, and does not begin with a blank. -/
def IsAddition (action definition : Text) : Prop :=
  ∃ word gap, action = word ++ (gap ++ definition) ∧ folded word = folded "ADD".toList ∧ gap ≠ [] ∧
    (∀ c ∈ gap, isBlank c = true) ∧ Ends isBlank definition

/-- The action adds a definition that says which kind of constraint it is, and maybe the name of it. -/
inductive IsClause (action : Text) : Text → Option Text → ConstraintKind → Prop
  | unnamed {definition : Text} {kind : ConstraintKind} (adds : IsAddition action definition)
      (starts : Starts kind.heading (upper definition)) : IsClause action definition none kind
  | named {definition name text : Text} {kind : ConstraintKind} (adds : IsAddition action definition)
      (named : Starts .constraint (upper definition)) (split : splitName definition = (some name, text))
      (starts : Starts kind.heading (upper text)) : IsClause action definition (some name) kind

/-- What an action on a table gives: constraints and warnings. -/
inductive Gives (table action : Text) : List Constraint → List Text → Prop
  | constraint {definition : Text} {constraint : Constraint}
      (clause : IsClause action definition constraint.name constraint.kind)
      (read : Dialect.standard.constraint definition = .ok constraint) : Gives table action [constraint] []
  | malformed {definition : Text} {name : Option Text} {kind : ConstraintKind} {defect : Defect}
      (clause : IsClause action definition name kind)
      (read : Dialect.standard.constraint definition = .error (.defect defect)) :
      Gives table action [] [Reading.aboutTable table defect.message]
  | misread {definition : Text} (adds : IsAddition action definition)
      (other : ∀ name kind, ¬ IsClause action definition name kind)
      (known : Starts .constraint (upper definition) ∨ definesIndex definition = true) :
      Gives table action [] [Reading.aboutTable table (Defect.constraint definition).message]
  | ignored (other : ∀ definition, IsAddition action definition → ¬ Starts .constraint (upper definition) ∧
      definesIndex definition = false ∧ ∀ name kind, ¬ IsClause action definition name kind) : Gives table action [] []

theorem IsClause.exists_starts (clause : IsClause action definition name kind) :
    IsAddition action definition ∧ ∃ kind, Starts kind (upper definition) := by
  cases clause with
  | unnamed adds starts => exact ⟨adds, _, starts⟩
  | named adds named => exact ⟨adds, _, named⟩

/-! ### What stands behind `ADD` -/

theorem mem_keyword_plain {letters : Text} (plain : ∀ letter ∈ letters, letter.toLower ∉ ['i', 's', 'k']) :
    ((), rest) ∈ keyword letters text ↔ ∃ word, text = word ++ rest ∧ folded word = folded letters := by
  induction letters generalizing text with
  | nil =>
      constructor
      · intro member
        exact ⟨[], (Prod.mk.inj (List.mem_singleton.mp member)).2.symm, rfl⟩
      · rintro ⟨word, rfl, same⟩
        rw [List.map_eq_nil_iff.mp same]
        exact List.mem_singleton_self _
  | cons letter letters ih =>
      obtain ⟨plain, plain'⟩ := List.forall_mem_cons.mp plain
      constructor
      · intro member
        obtain ⟨c, left, rfl, same, further⟩ := mem_keyword_cons member
        obtain ⟨word, rfl, same'⟩ := (ih plain').mp further
        exact ⟨c :: word, rfl, by rw [folded_cons, folded_cons, toLower_of_sameLetter plain same, same']⟩
      · rintro ⟨word, rfl, same⟩
        cases word with
        | nil => cases same
        | cons c word =>
            obtain ⟨same, same'⟩ := List.cons.inj same
            exact mem_bind.mpr ⟨c, word ++ rest, mem_char.mpr ⟨sameLetter_toLower letter c same, rfl⟩,
              (ih plain').mpr ⟨word, rfl, same'⟩⟩

namespace IsAddition

theorem addedPart_eq (adds : IsAddition action definition) : addedPart action = some definition := by
  obtain ⟨word, gap, rfl, same, apart, blank, ends⟩ := adds
  have begun : (keyword "ADD".toList).first (word ++ (gap ++ definition)) = some ((), gap ++ definition) :=
    first_of_mem (Settles.keyword _) ((mem_keyword_plain (by decide)).mpr ⟨word, rfl, same⟩)
  have read : (keywordThenBlanks "ADD".toList).first (word ++ (gap ++ definition)) = some ((), definition) :=
    first_bind begun (first_blanks1 blank apart ends)
  rw [addedPart, read]
  rfl

theorem solid (adds : IsAddition action definition) (solid : Solid action) : Solid definition := by
  obtain ⟨word, gap, rfl, _, apart, blank, ends⟩ := adds
  have some' : definition ≠ [] := by
    rintro rfl
    have last := solid.last
    rw [List.append_nil, ends_reverse_append apart] at last
    cases head : gap.reverse.head? with
    | none => exact apart (List.reverse_eq_nil_iff.mp (List.head?_eq_none_iff.mp head))
    | some c =>
        have unblank := last c head
        rw [blank c (List.mem_reverse.mp (List.mem_of_mem_head? head))] at unblank
        cases unblank
  have last := solid.last
  rw [ends_reverse_append (List.append_ne_nil_of_right_ne_nil _ some'), ends_reverse_append some'] at last
  exact ⟨some', ends, last⟩

end IsAddition

theorem addedPart_eq_some_iff : addedPart action = some definition ↔ IsAddition action definition := by
  refine ⟨fun added => ?_, IsAddition.addedPart_eq⟩
  obtain ⟨⟨_, left⟩, read, rfl⟩ := Option.map_eq_some_iff.mp added
  obtain ⟨_, between, begun, ended⟩ := mem_bind.mp (List.mem_of_mem_head? read)
  obtain ⟨word, rfl, same⟩ := (mem_keyword_plain (by decide)).mp begun
  obtain ⟨gap, rfl, apart, blank⟩ := mem_blanks1 ended
  -- The reading takes all of the blanks, so it leaves none.
  have whole : IsAddition (word ++ (gap ++ left)) (left.dropWhile isBlank) := by
    have apart' := List.append_ne_nil_of_left_ne_nil apart (left.takeWhile isBlank)
    refine ⟨word, gap ++ left.takeWhile isBlank, ?_, same, apart', ?_, ends_dropWhile _ left⟩
    · rw [List.append_assoc, List.takeWhile_append_dropWhile]
    · exact List.forall_mem_append.mpr ⟨blank, fun c member => List.mem_takeWhile_imp member⟩
  have same := added.symm.trans whole.addedPart_eq
  rw [← Option.some.inj same] at whole
  exact whole

/-! ### Actions -/

/-- The definition that an action adds, if it is not one of a column. -/
def addedDefinition (action : Text) : Option Text :=
  (addedPart action).bind fun part => if classifyDefinition part = .column then none else some (trim part)

/-- The constraints and the warnings of an action, by what its definition is read as. -/
def given (table action : Text) : List Constraint × List Text :=
  match (addedDefinition action).map constraintOutcome with
  | none => ([], [])
  | some (.ok constraint) => ([constraint], [])
  | some (.error defect) => ([], [Reading.aboutTable table defect.message])

/-- The definition of a clause is read behind the name that the clause gives. -/
theorem IsClause.exists_split (clause : IsClause action definition name kind) (solid : Solid action) :
    ∃ text, splitName definition = (name, text) ∧ Starts kind.heading (upper text) := by
  cases clause with
  | unnamed adds starts =>
      exact ⟨definition, splitName_of_refuses (adds.solid solid) starts.refuses_namedConstraint, starts⟩
  | named adds named split starts => exact ⟨_, split, starts⟩

theorem IsAddition.addedDefinition_eq (adds : IsAddition action definition) (solid : Solid action)
    (other : classifyDefinition definition ≠ .column) : addedDefinition action = some definition := by
  rw [addedDefinition, adds.addedPart_eq, Option.bind_some, if_neg other, (adds.solid solid).trim_eq]

theorem addedDefinition_eq_none_iff : addedDefinition action = none ↔
    ∀ definition, IsAddition action definition → classifyDefinition definition = .column := by
  cases part : addedPart action with
  | none =>
      refine iff_of_true (by rw [addedDefinition, part]; rfl) fun definition adds => ?_
      rw [adds.addedPart_eq] at part
      cases part
  | some definition =>
      rw [addedDefinition, part, Option.bind_some]
      constructor
      · intro nothing other adds
        obtain rfl := Option.some.inj (part.symm.trans adds.addedPart_eq)
        by_contra notColumn
        rw [if_neg notColumn] at nothing
        cases nothing
      · intro column
        rw [if_pos (column definition (addedPart_eq_some_iff.mp part))]

theorem IsClause.addedDefinition_eq (clause : IsClause action definition name kind) (solid : Solid action) :
    addedDefinition action = some definition := by
  obtain ⟨adds, kind, starts⟩ := clause.exists_starts
  exact adds.addedDefinition_eq solid fun column =>
    ((classifyDefinition_eq_column_iff (adds.solid solid).first).mp column).1 kind starts

/-- A definition that is not of a constraint is not one of a column either if it begins with `CONSTRAINT` or is
one of an index. -/
theorem known_iff (adds : IsAddition action definition) (ends : Ends isBlank definition)
    (other : ∀ name kind, ¬ IsClause action definition name kind) :
    (Starts .constraint (upper definition) ∨ definesIndex definition = true) ↔ classifyDefinition definition ≠ .column := by
  constructor
  · intro known column
    obtain ⟨unstarted, noIndex⟩ := (classifyDefinition_eq_column_iff ends).mp column
    rcases known with named | index
    · exact unstarted _ named
    · rw [noIndex] at index
      cases index
  · intro notColumn
    by_contra unknown
    obtain ⟨unnamed, noIndex⟩ := not_or.mp unknown
    refine notColumn ((classifyDefinition_eq_column_iff ends).mpr ⟨fun kind starts => ?_, by simpa using noIndex⟩)
    rcases heading_or_other kind with ⟨heads, rfl⟩ | rfl | rfl | rfl
    · exact other none heads (.unnamed adds starts)
    · exact unnamed starts
    · cases starts
    · cases starts

/-- What is no clause and is known as a definition all the same is not read as a constraint. -/
theorem constraintOutcome_of_not_clause (adds : IsAddition action definition) (solid : Solid definition)
    (other : ∀ name kind, ¬ IsClause action definition name kind)
    (known : Starts .constraint (upper definition) ∨ definesIndex definition = true) :
    constraintOutcome definition = .error (.constraint definition) := by
  cases read : namedConstraint.first definition with
  | none =>
      have split : splitName definition = (none, definition) := by rw [splitName, solid.trim_eq, read]
      exact constraintOutcome_of_other split fun kind starts => other none kind (.unnamed adds starts)
  | some found =>
      have split : splitName definition = (some (normalizeIdentifier found.1), trim found.2) := by
        rw [splitName, solid.trim_eq, read]
      have named : Starts .constraint (upper definition) := by
        refine known.resolve_right fun index => ?_
        rw [(refuses_namedConstraint_of_definesIndex index).first] at read
        cases read
      exact constraintOutcome_of_other split fun kind starts => other _ kind (.named adds named split starts)

theorem given_gives (solid : Solid action) (table : Text) :
    Gives table action (given table action).1 (given table action).2 := by
  by_cases clause : ∃ definition name kind, IsClause action definition name kind
  · obtain ⟨definition, name, kind, clause⟩ := clause
    obtain ⟨text, split, starts⟩ := clause.exists_split solid
    have added := clause.addedDefinition_eq solid
    rcases constraintOutcome_of_starts split starts with ⟨constraint, outcome, rfl, rfl⟩ | ⟨defect, outcome⟩
    · rw [given, added, Option.map_some, outcome]
      exact .constraint clause (by rw [standard_constraint, outcome]; rfl)
    · rw [given, added, Option.map_some, outcome]
      exact .malformed clause (by rw [standard_constraint, outcome]; rfl)
  · have other : ∀ definition name kind, ¬ IsClause action definition name kind := by simpa using clause
    by_cases nothing : addedDefinition action = none
    · rw [given, nothing]
      refine .ignored fun definition adds => ?_
      have column := addedDefinition_eq_none_iff.mp nothing definition adds
      obtain ⟨unstarted, noIndex⟩ := (classifyDefinition_eq_column_iff (adds.solid solid).first).mp column
      exact ⟨unstarted _, noIndex, other definition⟩
    · obtain ⟨definition, adds, notColumn⟩ : ∃ definition, ∃ _ : IsAddition action definition,
          classifyDefinition definition ≠ .column := by
        simpa [addedDefinition_eq_none_iff] using nothing
      have known := (known_iff adds (adds.solid solid).first (other definition)).mpr notColumn
      rw [given, adds.addedDefinition_eq solid notColumn, Option.map_some,
        constraintOutcome_of_not_clause adds (adds.solid solid) (other definition) known]
      exact .misread adds (other definition) known

theorem Gives.eq_given {table : Text} {constraints : List Constraint} {warnings : List Text}
    (gives : Gives table action constraints warnings) (solid : Solid action) :
    (constraints, warnings) = given table action := by
  cases gives with
  | constraint clause read =>
      rw [standard_constraint, ofDefect_eq_ok] at read
      rw [given, clause.addedDefinition_eq solid, Option.map_some, read]
  | @malformed definition _ _ defect clause read =>
      have outcome : constraintOutcome definition = .error defect := by
        rw [standard_constraint] at read
        cases outcome : constraintOutcome definition with
        | error other =>
            rw [outcome] at read
            cases read
            rfl
        | ok =>
            rw [outcome] at read
            cases read
      rw [given, clause.addedDefinition_eq solid, Option.map_some, outcome]
  | @misread definition adds other known =>
      have notColumn := (known_iff adds (adds.solid solid).first other).mp known
      rw [given, adds.addedDefinition_eq solid notColumn, Option.map_some,
        constraintOutcome_of_not_clause adds (adds.solid solid) other known]
  | ignored other =>
      have nothing : addedDefinition action = none := by
        refine addedDefinition_eq_none_iff.mpr fun definition adds => ?_
        obtain ⟨unnamed, noIndex, noClause⟩ := other definition adds
        by_contra notColumn
        rcases (known_iff adds (adds.solid solid).first noClause).mpr notColumn with named | index
        · exact unnamed named
        · rw [noIndex] at index
          cases index
      rw [given, nothing]
      rfl

/-- The judgements on actions leave no choice. -/
theorem forall₂_gives_iff {table : Text} {actions : List Text} (solid : ∀ action ∈ actions, Solid action)
    (each : List (List Constraint × List Text)) :
    List.Forall₂ (fun action one => Gives table action one.1 one.2) actions each ↔
      each = actions.map (given table) := by
  induction actions generalizing each with
  | nil => exact List.forall₂_nil_left_iff
  | cons action actions ih =>
      obtain ⟨first, others⟩ := List.forall_mem_cons.mp solid
      rw [List.forall₂_cons_left_iff, List.map_cons]
      constructor
      · rintro ⟨one, rest, gives, further, rfl⟩
        rw [(ih others rest).mp further, ← gives.eq_given first]
      · rintro rfl
        exact ⟨_, _, given_gives first table, (ih others _).mpr rfl, rfl⟩

/-! ### Statements -/

theorem classify_of_alterTableHead {way : Text × Text} (read : alterTableHead.first (trim statement) = some way) :
    classify statement = .alterTable := by
  obtain ⟨_, left, begun, _⟩ := mem_bind.mp (List.mem_of_mem_head? read)
  obtain ⟨trail, whole⟩ := exists_trimRight (trimLeft statement)
  obtain ⟨words, split, further⟩ :=
    ((spans_keywordThenBlanks "ALTER".toList).bind (spans_keywordThenBlanks "TABLE".toList)) _ _ _ begun
  -- The keywords can be read of the statement before what it ends with has been cut off.
  obtain ⟨_, begun'⟩ := further (left ++ trail) (by simp)
  have longer : words ++ (left ++ trail) = trimLeft statement := by
    rw [← List.append_assoc, ← split]
    exact whole.symm
  rw [longer] at begun'
  obtain ⟨_, afterAlter, alter, table⟩ := mem_bind.mp begun'
  obtain ⟨_, afterGap, alter, gap⟩ := mem_bind.mp alter
  obtain ⟨_, afterTable, table, gap'⟩ := mem_bind.mp table
  have createless : (do createTableKeywords; wordEnd : Reader Unit).Refuses (trimLeft statement) := by
    have create : (keyword "CREATE".toList).Begins (·.toLower ∈ ['c']) := begins_letter (by decide) (by decide)
    have alters : (keyword "ALTER".toList).Begins (·.toLower ∈ ['a']) := begins_letter (by decide) (by decide)
    exact List.eq_nil_iff_forall_not_mem.mpr fun way member =>
      apart_of_letters create.bind.bind.bind alters (by decide) member alter
  have accepted :
      (do keywords "ALTER".toList "TABLE".toList; wordEnd : Reader Unit).accepts (trimLeft statement) = true := by
    have ends : Ends isWordChar afterTable := begins_blanks1.ends (fun _ => not_isWordChar_of_isBlank) gap'
    refine accepts_of_mem (mem_bind.mpr ⟨(), afterTable, ?_, mem_wordEnd.mpr ⟨rfl, ends⟩⟩)
    exact mem_bind.mpr ⟨_, _, alter, mem_bind.mpr ⟨_, _, gap, table⟩⟩
  rw [classify, createless.accepts, if_neg Bool.false_ne_true, if_pos accepted]

theorem standard_alterTable (head : alterTableHead.first (trim statement) = some (written, actions)) :
    Dialect.standard.alterTable statement =
      .ok ⟨normalizeIdentifier written, (items actions).filterMap addedDefinition⟩ := by
  have each : ∀ action, Dialect.readAction (fun definition => return classifyDefinition definition) action =
      pure (addedDefinition action) := by
    intro action
    unfold Dialect.readAction addedDefinition
    cases addedPart action with
    | none => rfl
    | some part =>
        dsimp only
        rw [pure_bind, Option.bind_some]
        split <;> rfl
  change Dialect.readAlterTable (fun definition => return classifyDefinition definition) statement = _
  unfold Dialect.readAlterTable
  rw [head]
  dsimp only
  rw [funext each, List.mapM_pure]
  simp only [pure_bind, List.filterMap_map, Function.id_comp]
  rfl

theorem flatMap_given (table : Text) (actions : List Text) :
    (actions.map (given table)).flatMap Prod.fst =
        ((actions.filterMap addedDefinition).map constraintOutcome).filterMap Except.toOption ∧
      (actions.map (given table)).flatMap Prod.snd =
        ((actions.filterMap addedDefinition).map constraintOutcome).filterMap (Reading.warningOf table) := by
  induction actions with
  | nil => exact ⟨rfl, rfl⟩
  | cons action actions ih =>
      rw [List.map_cons, List.flatMap_cons, List.flatMap_cons, ih.1, ih.2, List.filterMap_cons, given]
      cases addedDefinition action with
      | none => exact ⟨rfl, rfl⟩
      | some definition =>
          dsimp only
          rw [Option.map_some, List.map_cons, List.filterMap_cons, List.filterMap_cons]
          cases constraintOutcome definition <;> exact ⟨rfl, rfl⟩

/-- What an `ALTER TABLE` statement gives is what its actions give, in their order, and each action gives one thing. -/
theorem read_alterTable (head : alterTableHead.first (trim statement) = some (written, actions)) (index : Nat) :
    ∃ each : List (List Constraint × List Text),
      (∀ other, List.Forall₂ (fun action one => Gives (normalizeIdentifier written) action one.1 one.2)
        (items actions) other ↔ other = each) ∧
      Dialect.standard.read statement index = .ok {
        index
        kind := .alterTable
        tableName := some (normalizeIdentifier written)
        constraints := each.flatMap Prod.fst
        warnings := each.flatMap Prod.snd } := by
  refine ⟨(items actions).map (given (normalizeIdentifier written)), ?_, ?_⟩
  · exact forall₂_gives_iff fun action member => solid_of_mem_pieces member
  · have kind : Dialect.standard.classify statement = .ok .alterTable :=
      congrArg Except.ok (classify_of_alterTableHead head)
    have each : ∀ definition, orElseDefect ((Dialect.standard.constraint definition).map Except.ok) Except.error =
        .ok (constraintOutcome definition) := by
      intro definition
      rw [standard_constraint]
      cases constraintOutcome definition <;> rfl
    have outcomes := collect_of_ok each ((items actions).filterMap addedDefinition)
    obtain ⟨constraints, warnings⟩ := flatMap_given (normalizeIdentifier written) (items actions)
    rw [Dialect.read, kind, constraints, warnings]
    change Except.ok (Reading.ofAlterTable Dialect.standard statement { index, kind := .alterTable }) = _
    unfold Reading.ofAlterTable
    rw [standard_alterTable head]
    dsimp only
    rw [outcomes]
    rfl

theorem read_alterTable_index :
    (∀ definition name kind, ¬ IsClause "ADD INDEX i (a)".toList definition name kind) ∧
    ∃ constraints warnings, Gives "t".toList "ADD INDEX i (a)".toList constraints warnings ∧
      Dialect.standard.read "ALTER TABLE t ADD INDEX i (a)".toList 0 =
        .ok { index := 0, kind := .alterTable, tableName := some "t".toList, constraints, warnings } ∧
      warnings = ["t: Malformed constraint definition: INDEX i (a)".toList] := by
  constructor
  · intro definition name kind clause
    have part : addedPart "ADD INDEX i (a)".toList = some "INDEX i (a)".toList := by decide +kernel
    have unstarted : headKind (upper "INDEX i (a)".toList) = none := by decide +kernel
    obtain ⟨adds, kind, starts⟩ := clause.exists_starts
    obtain rfl := Option.some.inj (part.symm.trans adds.addedPart_eq)
    rw [headKind_eq_some_iff.mpr starts] at unstarted
    cases unstarted
  · have head : alterTableHead.first (trim "ALTER TABLE t ADD INDEX i (a)".toList) =
        some ("t".toList, "ADD INDEX i (a)".toList) := by decide +kernel
    have single : items "ADD INDEX i (a)".toList = ["ADD INDEX i (a)".toList] := by decide +kernel
    have named : normalizeIdentifier "t".toList = "t".toList := by decide +kernel
    have computed : (Dialect.standard.read "ALTER TABLE t ADD INDEX i (a)".toList 0).map Reading.warnings =
        .ok ["t: Malformed constraint definition: INDEX i (a)".toList] := by decide +kernel
    obtain ⟨each, unique, read⟩ := read_alterTable head 0
    have gives := (unique each).mpr rfl
    rw [single, named] at gives
    obtain ⟨one, _, given, nothing, rfl⟩ := List.forall₂_cons_left_iff.mp gives
    obtain rfl := List.forall₂_nil_left_iff.mp nothing
    rw [named] at read
    rw [read] at computed
    refine ⟨one.1, one.2, given, ?_, ?_⟩
    · rw [read]
      simp
    · simpa using Except.ok.inj computed

end Schemata.Ddl
