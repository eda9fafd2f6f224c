import Schemata.Proofs.Ddl.TableHeads
import Schemata.Proofs.Ddl.WrittenConstraints
import Schemata.Proofs.Outcomes
import Schemata.Proofs.Reader.Mentions

/-!
The first words of a definition, in capitals, decide its kind. A definition that begins with the words of a
constraint, maybe behind a name, is read as a constraint of that kind or is malformed; no other one is read
as a constraint.
-/

namespace Schemata

/-- The kind of the definitions that give constraints of a kind. -/
def ConstraintKind.heading : ConstraintKind → Ddl.DefinitionKind
  | primaryKey => .primaryKey
  | foreignKey => .foreignKey
  | unique => .unique
  | check => .check

namespace Ddl

open Text Script Reader

variable {text left one other letters definition : Text} {name : Option Text} {kind : ConstraintKind}

/-- The text, which is in capitals, begins with the words of the kind. -/
inductive Starts : DefinitionKind → Text → Prop
  | primaryKey {gap rest : Text} (apart : gap ≠ []) (blank : ∀ c ∈ gap, isBlank c = true) (ends : Ends isWordChar rest) :
      Starts .primaryKey ("PRIMARY".toList ++ (gap ++ ("KEY".toList ++ rest)))
  | foreignKey {gap rest : Text} (apart : gap ≠ []) (blank : ∀ c ∈ gap, isBlank c = true) (ends : Ends isWordChar rest) :
      Starts .foreignKey ("FOREIGN".toList ++ (gap ++ ("KEY".toList ++ rest)))
  | constraint {c : Char} {rest : Text} (blank : isBlank c = true) : Starts .constraint ("CONSTRAINT".toList ++ c :: rest)
  | unique {rest : Text} (ends : Ends isWordChar rest) : Starts .unique ("UNIQUE".toList ++ rest)
  | check {gap rest : Text} (blank : ∀ c ∈ gap, isBlank c = true) : Starts .check ("CHECK".toList ++ (gap ++ '(' :: rest))

/-! ### Readers -/

theorem mem_exactly : ((), left) ∈ exactly letters text ↔ text = letters ++ left := by
  induction letters generalizing text with
  | nil => exact List.mem_singleton.trans ⟨fun same => (Prod.mk.inj same).2.symm, fun same => same ▸ rfl⟩
  | cons letter letters ih =>
      refine mem_bind.trans ⟨?_, ?_⟩
      · rintro ⟨c, mid, begun, more⟩
        obtain ⟨same, rfl⟩ := mem_char.mp begun
        rw [eq_of_beq same, ih.mp more, List.cons_append]
      · rintro rfl
        exact ⟨letter, letters ++ left, mem_char.mpr ⟨beq_self_eq_true letter, rfl⟩, ih.mpr rfl⟩

theorem mem_wordEnd : ((), left) ∈ wordEnd text ↔ left = text ∧ Ends isWordChar text := by
  rw [wordEnd, ← startsWithWord_eq_false_iff]
  cases startsWithWord text <;> simp

theorem accepts_capitals_iff (solid : ∀ rest, Ends isBlank (other ++ rest)) : (capitals one other).accepts text = true ↔
    ∃ gap rest, text = one ++ (gap ++ (other ++ rest)) ∧ gap ≠ [] ∧ (∀ c ∈ gap, isBlank c = true) ∧
      Ends isWordChar rest := by
  constructor
  · intro accepted
    obtain ⟨way, member⟩ := accepts_iff.mp accepted
    obtain ⟨_, behind, begun, more⟩ := mem_bind.mp member
    obtain ⟨_, second, between, further⟩ := mem_bind.mp more
    obtain ⟨_, rest, ended, last⟩ := mem_bind.mp further
    obtain rfl := mem_exactly.mp begun
    obtain ⟨gap, rfl, apart, blank⟩ := mem_blanks1 between
    obtain rfl := mem_exactly.mp ended
    exact ⟨gap, rest, rfl, apart, blank, (mem_wordEnd.mp last).2⟩
  · rintro ⟨gap, rest, rfl, apart, blank, ends⟩
    exact accepts_of_first (first_capitals blank apart (solid rest) ends)

theorem accepts_constraint_iff : (do exactly "CONSTRAINT".toList; blanks1 : Reader Unit).accepts text = true ↔
    ∃ c rest, text = "CONSTRAINT".toList ++ c :: rest ∧ isBlank c = true := by
  constructor
  · intro accepted
    obtain ⟨way, member⟩ := accepts_iff.mp accepted
    obtain ⟨_, behind, begun, more⟩ := mem_bind.mp member
    obtain rfl := mem_exactly.mp begun
    obtain ⟨c, rest, more, _⟩ := mem_bind.mp more
    obtain ⟨blank, rfl⟩ := mem_char.mp more
    exact ⟨c, rest, rfl, blank⟩
  · rintro ⟨c, rest, rfl, blank⟩
    refine accepts_iff.mpr ⟨((), rest), mem_bind.mpr ⟨(), c :: rest, mem_exactly.mpr rfl, ?_⟩⟩
    exact mem_bind.mpr ⟨c, rest, mem_char.mpr ⟨blank, rfl⟩, mem_run.mpr ⟨[], rfl, List.forall_mem_nil _⟩⟩

theorem accepts_unique_iff : (do exactly "UNIQUE".toList; wordEnd : Reader Unit).accepts text = true ↔
    ∃ rest, text = "UNIQUE".toList ++ rest ∧ Ends isWordChar rest := by
  constructor
  · intro accepted
    obtain ⟨way, member⟩ := accepts_iff.mp accepted
    obtain ⟨_, rest, begun, more⟩ := mem_bind.mp member
    exact ⟨rest, mem_exactly.mp begun, (mem_wordEnd.mp more).2⟩
  · rintro ⟨rest, rfl, ends⟩
    exact accepts_iff.mpr ⟨((), rest), mem_bind.mpr ⟨(), rest, mem_exactly.mpr rfl, mem_wordEnd.mpr ⟨rfl, ends⟩⟩⟩

theorem accepts_check_iff : (do exactly "CHECK".toList; blanks; ahead '(' : Reader Unit).accepts text = true ↔
    ∃ gap rest, text = "CHECK".toList ++ (gap ++ '(' :: rest) ∧ ∀ c ∈ gap, isBlank c = true := by
  constructor
  · intro accepted
    obtain ⟨way, member⟩ := accepts_iff.mp accepted
    obtain ⟨_, behind, begun, more⟩ := mem_bind.mp member
    obtain ⟨_, opened, between, last⟩ := mem_bind.mp more
    obtain rfl := mem_exactly.mp begun
    obtain ⟨gap, rfl, blank⟩ := mem_run.mp between
    obtain ⟨rest, rfl⟩ := List.head?_eq_some_iff.mp (mem_ahead.mp last).2
    exact ⟨gap, rest, rfl, blank⟩
  · rintro ⟨gap, rest, rfl, blank⟩
    exact accepts_of_first (first_bind (first_exactly ..) (first_bind (first_blanks blank (ends_cons.mpr (by decide)))
      (first_ahead ..)))

/-! ### Kinds -/

theorem headKind_eq_some_iff {kind : DefinitionKind} : headKind text = some kind ↔ Starts kind text := by
  have solid : ∀ rest, Ends isBlank ("KEY".toList ++ rest) := fun rest => ends_cons.mpr (by decide)
  constructor
  · intro decided
    unfold headKind at decided
    split at decided
    · rename_i accepted
      obtain ⟨gap, rest, rfl, apart, blank, ends⟩ := (accepts_capitals_iff solid).mp accepted
      obtain rfl := Option.some.inj decided
      exact .primaryKey apart blank ends
    split at decided
    · rename_i accepted
      obtain ⟨gap, rest, rfl, apart, blank, ends⟩ := (accepts_capitals_iff solid).mp accepted
      obtain rfl := Option.some.inj decided
      exact .foreignKey apart blank ends
    split at decided
    · rename_i accepted
      obtain ⟨c, rest, rfl, blank⟩ := accepts_constraint_iff.mp accepted
      obtain rfl := Option.some.inj decided
      exact .constraint blank
    split at decided
    · rename_i accepted
      obtain ⟨rest, rfl, ends⟩ := accepts_unique_iff.mp accepted
      obtain rfl := Option.some.inj decided
      exact .unique ends
    split at decided
    · rename_i accepted
      obtain ⟨gap, rest, rfl, blank⟩ := accepts_check_iff.mp accepted
      obtain rfl := Option.some.inj decided
      exact .check blank
    · cases decided
  · intro starts
    unfold headKind
    -- A text that begins with the word of a kind does not begin with the words that are tried before it.
    have passed : ∀ {one other : Option DefinitionKind}, (if false = true then one else other) = other := rfl
    cases starts with
    | primaryKey apart blank ends => exact if_pos ((accepts_capitals_iff solid).mpr ⟨_, _, rfl, apart, blank, ends⟩)
    | foreignKey apart blank ends =>
        exact passed.trans (if_pos ((accepts_capitals_iff solid).mpr ⟨_, _, rfl, apart, blank, ends⟩))
    | constraint blank => exact passed.trans (passed.trans (if_pos (accepts_constraint_iff.mpr ⟨_, _, rfl, blank⟩)))
    | unique ends =>
        exact passed.trans (passed.trans (passed.trans (if_pos (accepts_unique_iff.mpr ⟨_, rfl, ends⟩))))
    | check blank =>
        exact passed.trans (passed.trans (passed.trans (passed.trans (if_pos (accepts_check_iff.mpr ⟨_, _, rfl, blank⟩)))))

/-! ### Definitions -/

theorem heading_or_other (kind : DefinitionKind) : (∃ heads : ConstraintKind, kind = heads.heading) ∨
    kind = .constraint ∨ kind = .index ∨ kind = .column := by
  cases kind with
  | primaryKey => exact .inl ⟨.primaryKey, rfl⟩
  | foreignKey => exact .inl ⟨.foreignKey, rfl⟩
  | unique => exact .inl ⟨.unique, rfl⟩
  | check => exact .inl ⟨.check, rfl⟩
  | constraint => exact .inr (.inl rfl)
  | index => exact .inr (.inr (.inl rfl))
  | column => exact .inr (.inr (.inr rfl))

theorem classifyDefinition_eq (ends : Ends isBlank definition) : classifyDefinition definition =
    (headKind (upper definition)).getD (if definesIndex definition then .index else .column) := by
  simp only [classifyDefinition, trimLeft, ends.dropWhile_eq]
  cases headKind (upper definition) <;> rfl

theorem classifyDefinition_of_starts {kind : DefinitionKind} (ends : Ends isBlank definition)
    (starts : Starts kind (upper definition)) : classifyDefinition definition = kind :=
  classifyDefinition_of_headKind ends (headKind_eq_some_iff.mpr starts)

/-- A definition is classified as one of a constraint only if it begins like one. -/
theorem starts_of_classifyDefinition (ends : Ends isBlank definition)
    (same : classifyDefinition definition = kind.heading) : Starts kind.heading (upper definition) := by
  rw [classifyDefinition_eq ends] at same
  cases decided : headKind (upper definition) with
  | some other =>
      rw [decided] at same
      rw [← headKind_eq_some_iff, decided]
      exact congrArg some same
  | none =>
      rw [decided, Option.getD_none] at same
      split at same <;> cases kind <;> cases same

theorem classifyDefinition_eq_column_iff (ends : Ends isBlank definition) : classifyDefinition definition = .column ↔
    (∀ kind, ¬ Starts kind (upper definition)) ∧ definesIndex definition = false := by
  rw [classifyDefinition_eq ends]
  cases decided : headKind (upper definition) with
  | some other =>
      have starts := headKind_eq_some_iff.mp decided
      refine iff_of_false (fun same => ?_) fun none' => none'.1 other starts
      obtain rfl : other = .column := same
      cases starts
  | none =>
      have unstarted : ∀ kind, ¬ Starts kind (upper definition) := fun kind starts => by
        rw [headKind_eq_some_iff.mpr starts] at decided
        cases decided
      rw [Option.getD_none, and_iff_right unstarted]
      cases definesIndex definition <;> simp

/-! ### Names of constraints -/

/-- What begins with `CONSTRAINT` in either case begins with its first letters. -/
theorem exists_letters_of_namedConstraint {way : Text × Text} (member : way ∈ namedConstraint definition) :
    ∃ c rest, definition = c :: rest ∧ c.toLower = 'c' ∧ ∃ more, upper definition = 'C' :: 'O' :: more := by
  obtain ⟨_, _, begun, _⟩ := mem_bind.mp member
  obtain ⟨_, _, word, _⟩ := mem_bind.mp begun
  obtain ⟨c, _, rfl, same, later⟩ := mem_keyword_cons word
  obtain ⟨o, rest, rfl, same', _⟩ := mem_keyword_cons later
  have small : c.toLower = 'c' := toLower_of_sameLetter (by decide) same
  have small' : o.toLower = 'o' := toLower_of_sameLetter (by decide) same'
  have high : upperChar c = ['C'] := by rw [← upperChar_caseBlind, small]; rfl
  have high' : upperChar o = ['O'] := by rw [← upperChar_caseBlind, small']; rfl
  exact ⟨c, o :: rest, rfl, small, upper rest, by rw [upper, List.flatMap_cons, high, List.flatMap_cons, high']; rfl⟩

/-- A definition that begins with the words of a kind does not begin with a name. -/
theorem Starts.refuses_namedConstraint (starts : Starts kind.heading (upper definition)) :
    namedConstraint.Refuses definition := by
  refine List.eq_nil_iff_forall_not_mem.mpr fun way member => ?_
  obtain ⟨_, _, _, _, more, letters⟩ := exists_letters_of_namedConstraint member
  generalize upper definition = capitals at starts letters
  cases kind with
  | primaryKey => cases starts with | primaryKey => cases (List.cons.inj letters).1
  | foreignKey => cases starts with | foreignKey => cases (List.cons.inj letters).1
  | unique => cases starts with | unique => cases (List.cons.inj letters).1
  | check => cases starts with | check => cases (List.cons.inj (List.cons.inj letters).2).1

/-- A definition of an index does not begin with a name. -/
theorem refuses_namedConstraint_of_definesIndex (index : definesIndex definition = true) :
    namedConstraint.Refuses definition := by
  have apart : ∀ {letter : Char} {letters : Text}, sameLetter letter 'c' = false →
      (keyword (letter :: letters)).Begins (·.toLower ≠ 'c') := by
    intro letter letters other
    refine Begins.keyword.mono fun c same small => ?_
    rw [← sameLetter_caseBlind, small, other] at same
    cases same
  have begins : indexKeywords.Begins (·.toLower ≠ 'c') :=
    ((apart (by decide)).bind.either (apart (by decide)).bind).maybe_bind fun _ =>
      (apart (by decide)).either (apart (by decide))
  refine List.eq_nil_iff_forall_not_mem.mpr fun way member => ?_
  obtain ⟨c, rest, rfl, small, _⟩ := exists_letters_of_namedConstraint member
  unfold definesIndex at index
  split at index
  · cases index
  · rename_i read
    obtain ⟨d, head, other⟩ := begins.bind _ _ (List.mem_of_mem_head? read)
    obtain rfl := Option.some.inj head
    exact other small

theorem splitName_of_refuses (solid : Solid definition) (refuses : namedConstraint.Refuses definition) :
    splitName definition = (none, definition) := by
  rw [splitName, solid.trim_eq, refuses.first]

theorem ends_of_splitName (split : splitName definition = (name, text)) : Ends isBlank text := by
  have trimmed : ∀ text : Text, Ends isBlank (trim text) := by
    intro text
    obtain ⟨_, _, _, _, _, first, _⟩ := exists_trim text
    exact first
  unfold splitName at split
  dsimp only at split
  split at split
  · obtain ⟨_, rfl⟩ := Prod.mk.inj split
    exact trimmed _
  · obtain ⟨_, rfl⟩ := Prod.mk.inj split
    exact trimmed _

/-! ### Readings -/

theorem standard_column (definition : Text) :
    Dialect.standard.column definition = Dialect.ofDefect (readColumn definition) := by
  rw [Dialect.standard, Dialect.withClassifiers]

theorem standard_indexDefinition (definition : Text) :
    Dialect.standard.indexDefinition definition = Dialect.ofDefect (readIndexDefinition definition) := by
  rw [Dialect.standard, Dialect.withClassifiers]

/-- What a definition is read as, or why it cannot be. -/
def constraintOutcome (definition : Text) : Except Defect Constraint := do
  let (name, text) := splitName definition
  match ← readConstraintOf (classifyDefinition text) text with
  | some constraint => return { constraint with name }
  | none => throw (.constraint definition)

theorem standard_constraint (definition : Text) :
    Dialect.standard.constraint definition = Dialect.ofDefect (constraintOutcome definition) := by
  change Dialect.readConstraint (fun definition => return classifyDefinition definition) definition = _
  unfold Dialect.readConstraint constraintOutcome
  dsimp only
  rw [pure_bind]
  cases readConstraintOf (classifyDefinition (splitName definition).2) (splitName definition).2 with
  | error => rfl
  | ok read => cases read <;> rfl

/-- A constraint has the kind that its definition begins with. -/
theorem readConstraintOf_kind {constraint : Constraint}
    (read : readConstraintOf kind.heading text = .ok (some constraint)) : constraint.kind = kind := by
  have listed : ∀ {kind : ConstraintKind} {fromList : Text},
      (do return some { kind, columns := ← columnsFrom text fromList } : Except Defect (Option Constraint)) =
        .ok (some constraint) → constraint.kind = kind := by
    intro kind fromList read
    obtain ⟨_, _, made⟩ := bind_eq_ok.mp read
    cases made
    rfl
  cases kind with
  | primaryKey =>
      simp only [ConstraintKind.heading, readConstraintOf] at read
      split at read
      · cases read
      · exact listed read
  | foreignKey =>
      simp only [ConstraintKind.heading, readConstraintOf] at read
      split at read
      · cases read
      · unfold readForeignKey at read
        split at read
        · cases read
        · split at read
          · cases read
          · dsimp only at read
            split at read
            all_goals
              obtain ⟨_, _, made⟩ := bind_eq_ok.mp read
              cases made
              rfl
  | unique =>
      simp only [ConstraintKind.heading, readConstraintOf] at read
      split at read
      · cases read
      · exact listed read
  | check =>
      simp only [ConstraintKind.heading, readConstraintOf] at read
      split at read
      · cases read
      · obtain ⟨_, _, rfl⟩ := Option.map_eq_some_iff.mp (Except.ok.inj read)
        rfl

/-- What follows the name of a definition is read as a constraint of the kind that it begins with, if at all. -/
theorem constraintOutcome_of_starts (split : splitName definition = (name, text))
    (starts : Starts kind.heading (upper text)) :
    (∃ constraint, constraintOutcome definition = .ok constraint ∧ constraint.name = name ∧ constraint.kind = kind) ∨
      ∃ defect, constraintOutcome definition = .error defect := by
  have heading := classifyDefinition_of_starts (ends_of_splitName split) starts
  cases outcome : readConstraintOf kind.heading text with
  | error defect => exact .inr ⟨defect, by simp only [constraintOutcome, split, heading, outcome]; rfl⟩
  | ok read =>
      cases read with
      | none => exact .inr ⟨.constraint definition, by simp only [constraintOutcome, split, heading, outcome]; rfl⟩
      | some constraint =>
          refine .inl ⟨{ constraint with name }, ?_, rfl, (readConstraintOf_kind outcome : constraint.kind = kind)⟩
          simp only [constraintOutcome, split, heading, outcome]
          rfl

/-- Nothing is read of a definition that does not begin like a constraint behind its name. -/
theorem constraintOutcome_of_other (split : splitName definition = (name, text))
    (other : ∀ kind : ConstraintKind, ¬ Starts kind.heading (upper text)) :
    constraintOutcome definition = .error (.constraint definition) := by
  have unread : readConstraintOf (classifyDefinition text) text = .ok none := by
    rcases heading_or_other (classifyDefinition text) with ⟨kind, heads⟩ | same | same | same
    · exact absurd (starts_of_classifyDefinition (ends_of_splitName split) heads) (other kind)
    all_goals
      rw [same]
      rfl
  simp only [constraintOutcome, split, unread]
  rfl

end Ddl

end Schemata
