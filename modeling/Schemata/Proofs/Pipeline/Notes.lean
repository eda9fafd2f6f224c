import Schemata.Proofs.Pipeline.Changes

/-!
What reading the statements of a script notes. Each statement adds the errors and warnings of its
reading, and a warning if it creates a table whose name an earlier statement took. A statement that
cannot be classified ends the reading, and what the statements before it gave is kept.
-/

namespace Schemata

open Ddl (Dialect Fault Reading StatementKind)

namespace Ddl.Reading

/-- The table that an accepted table statement creates. -/
def created (reading : Reading) : Option TableMetadata :=
  if reading.creates then reading.metadata else none

theorem filterMap_created (readings : List Reading) :
    (readings.filter creates).filterMap metadata = readings.filterMap created := by
  rw [List.filterMap_filter]
  rfl

end Ddl.Reading

namespace Pipeline

/-- The tables that readings create, the first of each name. -/
def firstTables (readings : List Reading) : List TableMetadata :=
  firstOfEach (fun metadata => Text.lower metadata.name) [] (readings.filterMap Reading.created)

/-- One of the readings creates a table of the name. -/
def takes (readings : List Reading) (name : Text) : Bool :=
  (readings.filterMap Reading.created).any (Registry.hasName name)

/-- The warning about a table whose name is taken. -/
def repeatNotes (earlier : List Reading) (statement : Text) (reading : Reading) : List Diagnostic :=
  match reading.created with
  | none => []
  | some metadata =>
      if takes earlier metadata.name then
        [diagnostic statement reading.index .warning (duplicateTable metadata.name)]
      else []

/-- What reading the statements notes, after earlier ones. -/
def readingNotes (earlier : List Reading) : List (Text × Reading) → List Diagnostic
  | [] => []
  | (statement, reading) :: rest =>
      diagnosticsOf statement reading ++ repeatNotes earlier statement reading ++
        readingNotes (earlier ++ [reading]) rest

/-- The statements that can be classified, each with its reading. -/
def readingsOf (dialect : Dialect) (entries : List (Text × Nat)) : List (Text × Reading) :=
  entries.filterMap fun entry => (dialect.read entry.1 entry.2).toOption.map (entry.1, ·)

theorem readingNotes_append (earlier : List Reading) (first second : List (Text × Reading)) :
    readingNotes earlier (first ++ second) =
      readingNotes earlier first ++ readingNotes (earlier ++ first.map Prod.snd) second := by
  induction first generalizing earlier with
  | nil => simp [readingNotes]
  | cons entry rest ih =>
      obtain ⟨statement, reading⟩ := entry
      simp [readingNotes, ih]

theorem foldl_enterTable_created (readings : List Reading) :
    ((readings.filter Reading.creates).foldl enterTable {}).tables = firstTables readings := by
  rw [foldl_enterTable_tables, Reading.filterMap_created]
  rfl

theorem contains_of_tables {registry : Registry} {readings : List Reading}
    (tables : registry.tables = firstTables readings) (name : Text) :
    registry.contains name = takes readings name := by
  have keys := @mem_map_firstOfEach _ _ _ _ (fun metadata : TableMetadata => Text.lower metadata.name) []
    (readings.filterMap Reading.created) (Text.lower name)
  simp only [List.not_mem_nil, not_false_eq_true, and_true, List.mem_map] at keys
  rw [Bool.eq_iff_iff, Registry.contains, tables, takes, List.any_eq_true, List.any_eq_true]
  simpa only [firstTables, Registry.hasName, beq_iff_eq] using keys

theorem Loading.enter_diagnostics (loading : Loading) (statement : Text) (reading : Reading) :
    (loading.enter statement reading).diagnostics =
      loading.diagnostics ++ diagnosticsOf statement reading ++
        (match reading.created with
          | none => []
          | some metadata =>
              if loading.registry.contains metadata.name then
                [diagnostic statement reading.index .warning (duplicateTable metadata.name)]
              else []) := by
  unfold enter Reading.created Reading.creates
  cases accepted : reading.accepted with
  | false => simp
  | true =>
      cases kind : reading.kind with
      | createTable =>
          cases found : reading.metadata with
          | none => simp
          | some metadata =>
              cases taken : loading.registry.contains metadata.name <;>
                simp [Registry.register, taken]
      | _ => simp

/-- The state of reading after statements with these readings. -/
structure Loading.Follows (loading : Loading) (entries : List (Text × Reading)) : Prop where
  tables : loading.registry.tables = firstTables (entries.map Prod.snd)
  diagnostics : loading.diagnostics = readingNotes [] entries
  deferred : loading.deferred =
    (entries.filter fun entry => entry.2.changes).map fun entry => (entry.2, entry.1)

theorem Loading.Follows.distinct {loading : Loading} {entries : List (Text × Reading)}
    (follows : loading.Follows entries) : loading.registry.Distinct := by
  rw [Registry.Distinct, follows.tables]
  exact nodup_map_firstOfEach

theorem Loading.Follows.enter {loading : Loading} {entries : List (Text × Reading)}
    (follows : loading.Follows entries) (statement : Text) (reading : Reading) :
    (loading.enter statement reading).Follows (entries ++ [(statement, reading)]) where
  tables := by
    have known : loading.registry =
        ((entries.map Prod.snd).filter Reading.creates).foldl enterTable {} :=
      congrArg Registry.mk (follows.tables.trans (foldl_enterTable_created _).symm)
    rw [(loading.enter_eq statement reading).1, known, ← List.foldl_append, ← List.filter_append,
      foldl_enterTable_created]
    simp
  diagnostics := by
    rw [loading.enter_diagnostics, follows.diagnostics, readingNotes_append, readingNotes, readingNotes,
      repeatNotes]
    simp only [contains_of_tables follows.tables, List.nil_append, List.append_assoc, List.append_nil]
  deferred := by
    rw [(loading.enter_eq statement reading).2, follows.deferred, List.filter_append, List.map_append]
    cases changes : reading.changes <;> simp [changes]

section Load

variable {dialect : Dialect} {entries : List (Text × Nat)}

/-- Statements that can be classified are all read. -/
theorem load_follows (readable : ∀ entry ∈ entries, ∃ reading, dialect.read entry.1 entry.2 = .ok reading)
    {loading : Loading} {before : List (Text × Reading)} (follows : loading.Follows before) :
    ∃ final, load dialect loading entries = (final, none) ∧
      final.Follows (before ++ readingsOf dialect entries) := by
  induction entries generalizing loading before with
  | nil => exact ⟨loading, rfl, by simpa [readingsOf] using follows⟩
  | cons entry rest ih =>
      obtain ⟨statement, index⟩ := entry
      obtain ⟨reading, read⟩ := readable (statement, index) (List.mem_cons_self ..)
      obtain ⟨final, loaded, reached⟩ := ih
        (fun other member => readable other (List.mem_cons_of_mem _ member))
        (follows.enter statement reading)
      refine ⟨final, by rw [load, read]; exact loaded, ?_⟩
      have listed : readingsOf dialect ((statement, index) :: rest) =
          (statement, reading) :: readingsOf dialect rest := by
        rw [readingsOf, List.filterMap_cons, read]
        rfl
      rw [listed, List.append_cons]
      exact reached

theorem empty_follows : Loading.Follows {} [] := ⟨rfl, rfl, rfl⟩

theorem load_append {loading middle : Loading} (loaded : load dialect loading entries = (middle, none))
    (others : List (Text × Nat)) : load dialect loading (entries ++ others) = load dialect middle others := by
  induction entries generalizing loading with
  | nil =>
      cases loaded
      rfl
  | cons entry rest ih =>
      obtain ⟨statement, index⟩ := entry
      rw [load] at loaded
      rw [List.cons_append, load]
      cases read : dialect.read statement index with
      | error fault =>
          rw [read] at loaded
          cases loaded
      | ok reading =>
          rw [read] at loaded
          exact ih loaded

/-- A statement that cannot be classified ends the reading. -/
theorem load_broken (readable : ∀ entry ∈ entries, ∃ reading, dialect.read entry.1 entry.2 = .ok reading)
    {statement : Text} {index : Nat} {fault : Fault} (broken : dialect.read statement index = .error fault)
    (after : List (Text × Nat)) :
    ∃ final, load dialect {} (entries ++ (statement, index) :: after) = (final, some fault) ∧
      final.Follows (readingsOf dialect entries) := by
  obtain ⟨final, loaded, follows⟩ := load_follows readable empty_follows
  refine ⟨final, ?_, follows⟩
  rw [load_append loaded, load, broken]

end Load

/-- The state in which all statements of a script are read. Neither the options nor the rules bear on
the registry and the diagnostics that the inference starts from. -/
theorem run_stages {dialect : Dialect} {kindOf : Text → StatementKind}
    (classifies : ∀ statement, dialect.classify statement = .ok (kindOf statement)) (script : Text) :
    ∃ final : Loading, final.Follows (readingsOf dialect (Script.statements script).zipIdx) ∧
      (applyAll final.registry final.deferred).1 = registryIn dialect kindOf script ∧
      ∀ config rules, run dialect config rules script =
        infer config rules (registryIn dialect kindOf script).resolveImplicitReferences
          (final.diagnostics ++ (applyAll final.registry final.deferred).2) := by
  have readable : ∀ entry ∈ (Script.statements script).zipIdx,
      ∃ reading, dialect.read entry.1 entry.2 = .ok reading :=
    fun entry _ => ⟨_, read_eq classifies entry.1 entry.2⟩
  obtain ⟨final, loaded, follows⟩ := load_follows readable empty_follows
  obtain ⟨same, loadedToo, registry, deferred⟩ := load_eq classifies {} (Script.statements script).zipIdx
  obtain rfl : final = same := congrArg Prod.fst (loaded.symm.trans loadedToo)
  rw [List.zipIdx_map_fst] at registry deferred
  rw [readings_creates classifies] at registry
  rw [readings_changes classifies] at deferred
  have changed : (applyAll final.registry final.deferred).1 = registryIn dialect kindOf script := by
    rw [applyAll_registry, deferred, registry]
    rfl
  refine ⟨final, follows, changed, fun config rules => ?_⟩
  rw [← changed, run, loaded]

end Pipeline

end Schemata
