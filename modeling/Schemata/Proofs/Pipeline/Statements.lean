import Schemata.Pipeline

/-!
Which statements of a script its schema depends on. A dialect that classifies every statement reads
a script without a break; the registry is then built from the accepted table statements alone, and
the accepted changes are applied to it in their order. Nothing else that a reading holds, its place
in the script included, reaches the registry.
-/

namespace Schemata

open Ddl (Dialect Fault Reading StatementKind DefinitionKind)

namespace Ddl.Reading

def moved (reading : Reading) (index : Nat) : Reading :=
  { reading with index }

def creates (reading : Reading) : Bool :=
  reading.accepted && reading.kind == .createTable

def changes (reading : Reading) : Bool :=
  reading.accepted && (reading.kind == .alterTable || reading.kind == .createIndex)

theorem ofCreateTable_moved (dialect : Dialect) (statement : Text) (reading : Reading) (index : Nat) :
    ofCreateTable dialect statement (reading.moved index) =
      (ofCreateTable dialect statement reading).moved index := by
  unfold ofCreateTable
  split
  · rfl
  · dsimp only
    split
    · rfl
    · split <;> rfl

theorem ofAlterTable_moved (dialect : Dialect) (statement : Text) (reading : Reading) (index : Nat) :
    ofAlterTable dialect statement (reading.moved index) =
      (ofAlterTable dialect statement reading).moved index := by
  unfold ofAlterTable
  split
  · rfl
  · dsimp only
    split <;> rfl

theorem ofCreateIndex_moved (dialect : Dialect) (statement : Text) (reading : Reading) (index : Nat) :
    ofCreateIndex dialect statement (reading.moved index) =
      (ofCreateIndex dialect statement reading).moved index := by
  unfold ofCreateIndex
  split <;> rfl

@[simp] theorem moved_moved (reading : Reading) (first second : Nat) :
    (reading.moved first).moved second = reading.moved second := rfl

@[simp] theorem creates_moved (reading : Reading) (index : Nat) :
    (reading.moved index).creates = reading.creates := rfl

@[simp] theorem changes_moved (reading : Reading) (index : Nat) :
    (reading.moved index).changes = reading.changes := rfl

theorem changes_of_creates {reading : Reading} (creates : reading.creates = true) :
    reading.changes = false := by
  simp only [Reading.creates, Bool.and_eq_true, beq_iff_eq] at creates
  simp [Reading.changes, creates.2]

/-- A reading depends on the place of its statement in nothing but the index that it carries. -/
theorem ofKind_eq_moved (dialect : Dialect) (kind : StatementKind) (statement : Text) (index : Nat) :
    ofKind dialect kind statement index = (ofKind dialect kind statement 0).moved index := by
  cases kind with
  | createTable => exact ofCreateTable_moved dialect statement ⟨0, _, _, _, _, _, _, _, _⟩ index
  | alterTable => exact ofAlterTable_moved dialect statement ⟨0, _, _, _, _, _, _, _, _⟩ index
  | createIndex => exact ofCreateIndex_moved dialect statement ⟨0, _, _, _, _, _, _, _, _⟩ index
  | other => rfl

end Ddl.Reading

namespace Pipeline

variable {dialect : Dialect} {kindOf : Text → StatementKind}

/-- What a dialect with these kinds reads in a statement. -/
def readingOf (dialect : Dialect) (kindOf : Text → StatementKind) (statement : Text) : Reading :=
  Reading.ofKind dialect (kindOf statement) statement 0

@[simp] theorem readingOf_moved (statement : Text) :
    (readingOf dialect kindOf statement).moved 0 = readingOf dialect kindOf statement :=
  (Reading.ofKind_eq_moved dialect (kindOf statement) statement 0).symm

theorem read_eq (classifies : ∀ statement, dialect.classify statement = .ok (kindOf statement))
    (statement : Text) (index : Nat) :
    dialect.read statement index = .ok ((readingOf dialect kindOf statement).moved index) := by
  rw [readingOf, ← Reading.ofKind_eq_moved]
  simp only [Dialect.read, classifies, bind, Except.bind, pure, Except.pure]

def enterTable (registry : Registry) (reading : Reading) : Registry :=
  match reading.metadata with
  | none => registry
  | some metadata => (registry.register metadata).1

theorem Loading.enter_of_creates (loading : Loading) (statement : Text) {reading : Reading}
    (creates : reading.creates = true) :
    (loading.enter statement reading).registry = enterTable loading.registry reading ∧
      (loading.enter statement reading).deferred = loading.deferred := by
  simp only [Reading.creates, Bool.and_eq_true, beq_iff_eq] at creates
  obtain ⟨accepted, kind⟩ := creates
  cases found : reading.metadata with
  | none => simp [enter, enterTable, accepted, kind, found]
  | some metadata =>
      cases taken : loading.registry.contains metadata.name <;>
        simp [enter, enterTable, Registry.register, accepted, kind, found, taken]

theorem Loading.enter_of_changes (loading : Loading) (statement : Text) {reading : Reading}
    (changes : reading.changes = true) :
    (loading.enter statement reading).registry = loading.registry ∧
      (loading.enter statement reading).deferred = loading.deferred ++ [(reading, statement)] := by
  simp only [Reading.changes, Bool.and_eq_true, Bool.or_eq_true, beq_iff_eq] at changes
  obtain ⟨accepted, kind | kind⟩ := changes <;> simp [enter, accepted, kind]

theorem Loading.enter_of_neither (loading : Loading) (statement : Text) {reading : Reading}
    (creates : reading.creates = false) (changes : reading.changes = false) :
    (loading.enter statement reading).registry = loading.registry ∧
      (loading.enter statement reading).deferred = loading.deferred := by
  simp only [Reading.creates, Reading.changes] at creates changes
  cases accepted : reading.accepted <;> cases kind : reading.kind <;>
    simp [enter, accepted, kind] at creates changes ⊢

@[simp] theorem enterTable_moved (registry : Registry) (reading : Reading) (index : Nat) :
    enterTable registry (reading.moved index) = enterTable registry reading := rfl

/-- Attaches a constraint; one that the table cannot take is dropped. -/
def takeConstraint (table : Text) (registry : Registry) (constraint : Constraint) : Registry :=
  (registry.addConstraint table constraint).toOption.getD registry

/-- Applies a change to its table; a change to an unknown table is dropped. -/
def applyChange (registry : Registry) (reading : Reading) : Registry :=
  let table := reading.tableName.getD []
  if !registry.contains table then registry
  else
    match reading.indexDefinition with
    | some index => (registry.addIndex table index).toOption.getD registry
    | none => reading.constraints.foldl (takeConstraint table) registry

theorem addConstraints_registry (registry : Registry) (table : Text) (note : Text → Diagnostic)
    (constraints : List Constraint) :
    (addConstraints registry table note constraints).1 =
      constraints.foldl (takeConstraint table) registry := by
  induction constraints generalizing registry with
  | nil => rfl
  | cons constraint rest ih =>
      unfold addConstraints
      rw [List.foldl_cons]
      cases added : registry.addConstraint table constraint with
      | ok changed => simpa [takeConstraint, added, Except.toOption] using ih changed
      | error error => simpa [takeConstraint, added, Except.toOption] using ih registry

/-- The text and the place of a change only show in its diagnostics. -/
theorem applyDeferred_registry (registry : Registry) (reading : Reading) (statement : Text) :
    (applyDeferred registry reading statement).1 = applyChange registry reading := by
  unfold applyDeferred applyChange
  dsimp only
  split
  · rfl
  · cases reading.indexDefinition with
    | some index =>
        dsimp only
        cases registry.addIndex (reading.tableName.getD []) index <;> rfl
    | none => exact addConstraints_registry ..

theorem applyAll_registry (registry : Registry) (deferred : List (Reading × Text)) :
    (applyAll registry deferred).1 =
      (deferred.map fun entry => entry.1.moved 0).foldl applyChange registry := by
  induction deferred generalizing registry with
  | nil => rfl
  | cons entry rest ih =>
      obtain ⟨reading, statement⟩ := entry
      unfold applyAll
      rw [List.map_cons, List.foldl_cons]
      dsimp only
      rw [ih, applyDeferred_registry]
      rfl

def tableStatements (dialect : Dialect) (script : Text) : List Text :=
  (Script.statements script).filter fun statement =>
    (dialect.read statement 0).toOption.any Reading.creates

def changeStatements (dialect : Dialect) (script : Text) : List Text :=
  (Script.statements script).filter fun statement =>
    (dialect.read statement 0).toOption.any Reading.changes

/-- The registry that tables and, after them, changes to tables lead to. -/
def registryOf (tables changes : List Reading) : Registry :=
  changes.foldl applyChange (tables.foldl enterTable {})

variable (classifies : ∀ statement, dialect.classify statement = .ok (kindOf statement))
include classifies

omit classifies in
/-- What a statement adds to a state of reading, whether it is a table, a change or neither. -/
theorem Loading.enter_eq (loading : Loading) (statement : Text) (reading : Reading) :
    (loading.enter statement reading).registry =
        ([reading].filter Reading.creates).foldl enterTable loading.registry ∧
      (loading.enter statement reading).deferred =
        loading.deferred ++ ([reading].filter Reading.changes).map fun change => (change, statement) := by
  cases creates : reading.creates with
  | true =>
      have unchanging : reading.changes = false := Reading.changes_of_creates creates
      simpa [creates, unchanging] using loading.enter_of_creates statement creates
  | false =>
      cases changes : reading.changes with
      | true => simpa [creates, changes] using loading.enter_of_changes statement changes
      | false => simpa [creates, changes] using loading.enter_of_neither statement creates changes

/-- Reading never breaks off. The tables are those of the accepted table statements; the accepted
changes are put off. -/
theorem load_eq (loading : Loading) (entries : List (Text × Nat)) :
    ∃ final, load dialect loading entries = (final, none) ∧
      final.registry =
        (((entries.map Prod.fst).map (readingOf dialect kindOf)).filter Reading.creates).foldl
          enterTable loading.registry ∧
      (final.deferred.map fun entry => entry.1.moved 0) =
        (loading.deferred.map fun entry => entry.1.moved 0) ++
          ((entries.map Prod.fst).map (readingOf dialect kindOf)).filter Reading.changes := by
  induction entries generalizing loading with
  | nil => exact ⟨loading, rfl, rfl, by simp⟩
  | cons entry rest ih =>
      obtain ⟨statement, index⟩ := entry
      let reading := readingOf dialect kindOf statement
      obtain ⟨final, loaded, registered, deferred⟩ := ih (loading.enter statement (reading.moved index))
      obtain ⟨registry, changes⟩ := loading.enter_eq statement (reading.moved index)
      -- The statement joins one of the two lists, or neither, whatever its place in the script.
      refine ⟨final, by simp only [load, read_eq classifies, reading, loaded], ?_, ?_⟩
      · rw [registered, registry]
        cases creates : reading.creates <;> simp [reading, creates]
      · rw [deferred, changes]
        cases changing : reading.changes <;> simp [reading, changing]

theorem readings_creates (script : Text) :
    ((Script.statements script).map (readingOf dialect kindOf)).filter Reading.creates =
      (tableStatements dialect script).map (readingOf dialect kindOf) := by
  simp only [tableStatements, List.filter_map, read_eq classifies]
  rfl

theorem readings_changes (script : Text) :
    ((Script.statements script).map (readingOf dialect kindOf)).filter Reading.changes =
      (changeStatements dialect script).map (readingOf dialect kindOf) := by
  simp only [changeStatements, List.filter_map, read_eq classifies]
  rfl

/-- A run infers from the registry that the tables and then the changes of its script lead to. -/
theorem run_eq_infer (config : Config) (rules : Rules) (script : Text) :
    ∃ diagnostics, run dialect config rules script =
      infer config rules
        (registryOf ((tableStatements dialect script).map (readingOf dialect kindOf))
          ((changeStatements dialect script).map (readingOf dialect kindOf))).resolveImplicitReferences
        diagnostics := by
  obtain ⟨final, loaded, registry, deferred⟩ := load_eq classifies {} (Script.statements script).zipIdx
  rw [List.zipIdx_map_fst] at registry deferred
  rw [readings_creates classifies] at registry
  rw [readings_changes classifies] at deferred
  refine ⟨final.diagnostics ++ (applyAll final.registry final.deferred).2, ?_⟩
  simp only [run, loaded]
  rw [applyAll_registry, deferred, registry]
  rfl

omit classifies in
theorem infer_diagnostics (config : Config) (rules : Rules) (registry : Registry)
    (diagnostics : List Diagnostic) :
    (infer config rules registry diagnostics).tables = (infer config rules registry []).tables ∧
      (infer config rules registry diagnostics).relationships =
        (infer config rules registry []).relationships ∧
      (infer config rules registry diagnostics).junctionTables =
        (infer config rules registry []).junctionTables := by
  unfold infer
  cases junctionTables rules config.maxExtraColumns registry <;> exact ⟨rfl, rfl, rfl⟩

end Pipeline

namespace Ddl.Dialect

/-- The readers of this library, where the classification of definitions may break down. -/
def classifying (classifyDefinition : Text → Except Fault DefinitionKind) : Dialect :=
  withClassifiers (fun statement => return Ddl.classify statement) classifyDefinition

theorem classifying_classifies (classifyDefinition : Text → Except Fault DefinitionKind) (statement : Text) :
    (classifying classifyDefinition).classify statement = .ok (Ddl.classify statement) := rfl

theorem standard_eq_classifying :
    standard = classifying fun definition => return Ddl.classifyDefinition definition := rfl

theorem standard_classifies (statement : Text) :
    standard.classify statement = .ok (Ddl.classify statement) := by
  rw [standard_eq_classifying]
  exact classifying_classifies _ statement

end Ddl.Dialect

namespace Pipeline

open Ddl.Dialect (classifying classifying_classifies)

/-- Two scripts with the same accepted table statements and the same accepted changes have one
schema, however the two are interleaved and whatever else stands between them. -/
theorem schema_eq_of_same_statements (classifyDefinition : Text → Except Fault DefinitionKind)
    (config : Config) (rules : Rules) (one other : Text)
    (sameTables : tableStatements (classifying classifyDefinition) one =
      tableStatements (classifying classifyDefinition) other)
    (sameChanges : changeStatements (classifying classifyDefinition) one =
      changeStatements (classifying classifyDefinition) other) :
    (run (classifying classifyDefinition) config rules one).tables =
        (run (classifying classifyDefinition) config rules other).tables ∧
      (run (classifying classifyDefinition) config rules one).relationships =
        (run (classifying classifyDefinition) config rules other).relationships ∧
      (run (classifying classifyDefinition) config rules one).junctionTables =
        (run (classifying classifyDefinition) config rules other).junctionTables := by
  have classifies := classifying_classifies classifyDefinition
  obtain ⟨first, oneRun⟩ := run_eq_infer classifies config rules one
  obtain ⟨second, otherRun⟩ := run_eq_infer classifies config rules other
  rw [oneRun, otherRun, sameTables, sameChanges]
  obtain ⟨tables, relationships, junctions⟩ := infer_diagnostics config rules _ first
  obtain ⟨tables', relationships', junctions'⟩ := infer_diagnostics config rules _ second
  exact ⟨tables.trans tables'.symm, relationships.trans relationships'.symm,
    junctions.trans junctions'.symm⟩

def fragileClassifier (definition : Text) : Except Fault DefinitionKind :=
  if definition = "x FRAGILE".toList then .error (.breakdown []) else .ok (Ddl.classifyDefinition definition)

/-- A change may stand before its table, and statements that are of no use or cannot be read may stand
anywhere. -/
theorem schema_eq_of_moved_change :
    let one := "CREATE TABLE a (x INT);ALTER TABLE a ADD PRIMARY KEY (x)".toList
    let other := "ALTER TABLE a ADD PRIMARY KEY (x);DROP;CREATE TABLE b (x FRAGILE);CREATE TABLE a (x INT)".toList
    let dialect := classifying fragileClassifier
    tableStatements dialect one = tableStatements dialect other ∧
      changeStatements dialect one = changeStatements dialect other ∧
      (run dialect {} (Config.rules {}) one).tables = (run dialect {} (Config.rules {}) other).tables := by
  intro one other dialect
  have sameTables : tableStatements dialect one = tableStatements dialect other := by decide +kernel
  have sameChanges : changeStatements dialect one = changeStatements dialect other := by decide +kernel
  exact ⟨sameTables, sameChanges,
    (schema_eq_of_same_statements fragileClassifier {} (Config.rules {}) one other sameTables sameChanges).1⟩

end Pipeline

end Schemata
