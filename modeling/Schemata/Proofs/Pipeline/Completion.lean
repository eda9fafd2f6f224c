import Schemata.Proofs.Inference.Engine
import Schemata.Proofs.Pipeline.Agreement

/-!
A run over the readers of this library never breaks off, whatever the script and the options. Every
diagnostic shows its statement, and a result is complete exactly if every statement could be read.
-/

namespace Schemata

open Ddl (Dialect Draft Fault Reading StatementKind)

namespace Ddl.Reading

variable {dialect : Dialect} {statement : Text} {reading : Reading}

/-- What the stages after the reading of a statement take for granted. -/
structure IsWhole (reading : Reading) : Prop where
  errors : reading.errors.isEmpty = reading.accepted
  metadata : reading.creates = true → reading.metadata.isSome = true
  table : reading.changes = true → reading.tableName.isSome = true
  index : reading.changes = true →
    reading.indexDefinition.isSome = (reading.kind == .createIndex)

theorem fail_isWhole (reading : Reading) (fault : Fault) : (reading.fail fault).IsWhole := by
  constructor <;> simp [fail, creates, changes]

theorem ofKind_isWhole (kind : StatementKind) (statement : Text) (index : Nat) :
    (ofKind dialect kind statement index).IsWhole := by
  have arises := arises_ofKind dialect kind statement index
  generalize ofKind dialect kind statement index = reading at arises ⊢
  cases arises with
  | unreadTable | brokenTable | unreadChange | brokenChange | unreadIndex => exact fail_isWhole ..
  | table => constructor <;> simp [makes, names, changes]
  | change => constructor <;> simp [adds, creates]
  | index => constructor <;> simp [creates]
  | other => constructor <;> simp [creates, changes]

theorem ofKind_index (kind : StatementKind) (statement : Text) (index : Nat) :
    (ofKind dialect kind statement index).index = index := by
  rw [ofKind_eq_moved]
  rfl

end Ddl.Reading

namespace Pipeline

/-- What ends a run before its time. -/
inductive Breakdown
  | fault (fault : Fault)
  | registry (error : RegistryError)
  /-- A part that a reading should have, or the statement of a reading, is not there. -/
  | absent
deriving DecidableEq, Repr

def demand {α : Type} : Option α → Except Breakdown α
  | none => throw .absent
  | some a => return a

theorem demand_bind {α β : Type} {part : Option α} {a : α} (found : part = some a)
    (next : α → Except Breakdown β) : (demand part >>= next) = next a := by
  rw [found]
  rfl

/-- Enters a reading, of which a table is demanded where it creates one. -/
def Loading.attempt (loading : Loading) (statement : Text) (reading : Reading) :
    Except Breakdown Loading := do
  let noted := { loading with diagnostics := loading.diagnostics ++ diagnosticsOf statement reading }
  if !reading.accepted || reading.kind = .other then return noted
  else if reading.kind = .createTable then
    let metadata ← demand reading.metadata
    match noted.registry.register metadata with
    | (registry, true) => return { noted with registry }
    | (_, false) =>
        return { noted with diagnostics := noted.diagnostics ++
          [diagnostic statement reading.index .warning (duplicateTable metadata.name)] }
  else return { noted with deferred := noted.deferred ++ [(reading, statement)] }

def attemptLoad (dialect : Dialect) (loading : Loading) :
    List (Text × Nat) → Except Breakdown Loading
  | [] => return loading
  | (statement, index) :: rest => do
      let reading ← (dialect.read statement index).mapError .fault
      attemptLoad dialect (← loading.attempt statement reading) rest

/-- Adds constraints to a table; only a second primary key is noted. -/
def attemptConstraints (registry : Registry) (table : Text) (note : Text → Diagnostic) :
    List Constraint → Except Breakdown (Registry × List Diagnostic)
  | [] => return (registry, [])
  | constraint :: rest =>
      match registry.addConstraint table constraint with
      | .ok changed => attemptConstraints changed table note rest
      | .error (.secondPrimaryKey name) => do
          let (registry, notes) ← attemptConstraints registry table note rest
          return (registry, note (RegistryError.secondPrimaryKey name).message :: notes)
      | .error error => throw (.registry error)

/-- Applies a change, whose statement is looked up. -/
def attemptChange (statements : List Text) (registry : Registry) (reading : Reading) :
    Except Breakdown (Registry × List Diagnostic) := do
  let statement ← demand statements[reading.index]?
  let table ← demand reading.tableName
  let note := diagnostic statement reading.index .warning
  if !registry.contains table then return (registry, [note (unknownTarget reading.kind table)])
  else if reading.kind = .createIndex then
    let index ← demand reading.indexDefinition
    let changed ← (registry.addIndex table index).mapError .registry
    return (changed, [])
  else attemptConstraints registry table note reading.constraints

def attemptChanges (statements : List Text) (registry : Registry) :
    List Reading → Except Breakdown (Registry × List Diagnostic)
  | [] => return (registry, [])
  | reading :: rest => do
      let (changed, notes) ← attemptChange statements registry reading
      let (final, others) ← attemptChanges statements changed rest
      return (final, notes ++ others)

/-- A run in which everything that its stages take for granted is demanded, so that it gives a result
only if nothing breaks down. -/
def attempt (dialect : Dialect) (config : Config) (rules : Rules) (script : Text) :
    Except Breakdown Result := do
  let statements := Script.statements script
  let loading ← attemptLoad dialect {} statements.zipIdx
  let (registry, notes) ← attemptChanges statements loading.registry (loading.deferred.map Prod.fst)
  let complete := registry.resolveImplicitReferences
  let junctions ← (junctionTables rules config.maxExtraColumns complete).mapError .fault
  match (Engine.ofRegistry complete junctions config rules).run [] with
  | (_, some fault) => throw (.fault fault)
  | (links, none) =>
      return { tables := tablesOf complete
               relationships := Relationship.report links
               junctionTables := junctions
               diagnostics := loading.diagnostics ++ notes }

/-- The diagnostic shows one of the statements. -/
def Shows (statements : List Text) (diagnostic : Diagnostic) : Prop :=
  ∃ index statement, statements[index]? = some statement ∧
    diagnostic.statementIndex = some index ∧
    diagnostic.statement = some (Text.excerpt width statement)

variable {statements : List Text} {statement : Text} {reading : Reading} {registry : Registry}

theorem diagnostic_shows {index : Nat} (found : statements[index]? = some statement)
    (severity : Severity) (message : Text) :
    Shows statements (diagnostic statement index severity message) :=
  ⟨index, statement, found, rfl, rfl⟩

theorem diagnosticsOf_shows (found : statements[reading.index]? = some statement) :
    ∀ shown ∈ diagnosticsOf statement reading, Shows statements shown := by
  intro shown member
  rcases List.mem_append.mp member with error | warning
  · obtain ⟨message, _, rfl⟩ := List.mem_map.mp error
    exact diagnostic_shows found ..
  · obtain ⟨message, _, rfl⟩ := List.mem_map.mp warning
    exact diagnostic_shows found ..

def isError (diagnostic : Diagnostic) : Bool :=
  diagnostic.severity == .error

theorem any_isError_diagnosticsOf (whole : reading.IsWhole) :
    (diagnosticsOf statement reading).any isError = !reading.accepted := by
  rw [diagnosticsOf, List.any_append, List.any_map, List.any_map, ← whole.errors]
  cases reading.errors <;> simp [isError, diagnostic, Function.comp_def]

/-- A change that was put off stands in the script and can be applied. -/
def IsPending (statements : List Text) (entry : Reading × Text) : Prop :=
  entry.1.IsWhole ∧ entry.1.changes = true ∧ statements[entry.1.index]? = some entry.2

/-- The state of reading: diagnostics show statements, and what was put off can be applied. -/
structure Loading.IsSound (statements : List Text) (loading : Loading) : Prop where
  diagnostics : ∀ shown ∈ loading.diagnostics, Shows statements shown
  deferred : ∀ entry ∈ loading.deferred, IsPending statements entry

variable {loading : Loading}

theorem Loading.attempt_eq (whole : reading.IsWhole) :
    loading.attempt statement reading = .ok (loading.enter statement reading) := by
  unfold attempt enter
  dsimp only
  split
  · rfl
  · rename_i read
    split
    · rename_i kind
      have creates : reading.creates = true := by simp_all [Reading.creates]
      obtain ⟨metadata, found⟩ := Option.isSome_iff_exists.mp (whole.metadata creates)
      rw [demand_bind found, found]
      dsimp only
      cases loading.registry.register metadata with
      | mk registered fresh => cases fresh <;> rfl
    · rfl

theorem Loading.IsSound.enter (sound : loading.IsSound statements) (whole : reading.IsWhole)
    (found : statements[reading.index]? = some statement) :
    (loading.enter statement reading).IsSound statements where
  diagnostics := by
    have noted : ∀ shown ∈ loading.diagnostics ++ diagnosticsOf statement reading,
        Shows statements shown :=
      List.forall_mem_append.mpr ⟨sound.diagnostics, diagnosticsOf_shows found⟩
    unfold Loading.enter
    dsimp only
    split
    · exact noted
    · split
      · split
        · exact noted
        · split
          · exact noted
          · refine List.forall_mem_append.mpr ⟨noted, fun shown member => ?_⟩
            obtain rfl := List.mem_singleton.mp member
            exact diagnostic_shows found ..
      · exact noted
  deferred := by
    intro entry member
    rw [(loading.enter_eq statement reading).2] at member
    rcases List.mem_append.mp member with old | new
    · exact sound.deferred entry old
    · obtain ⟨change, filtered, rfl⟩ := List.mem_map.mp new
      obtain ⟨here, changes⟩ := List.mem_filter.mp filtered
      obtain rfl := List.mem_singleton.mp here
      exact ⟨whole, changes, found⟩

theorem Loading.any_isError_enter (whole : reading.IsWhole) :
    (loading.enter statement reading).diagnostics.any isError =
      (loading.diagnostics.any isError || !reading.accepted) := by
  have noted : (loading.diagnostics ++ diagnosticsOf statement reading).any isError =
      (loading.diagnostics.any isError || !reading.accepted) := by
    rw [List.any_append, any_isError_diagnosticsOf whole]
  unfold enter
  dsimp only
  split
  · exact noted
  · split
    · split
      · exact noted
      · split
        · exact noted
        · rw [List.any_append, noted]
          simp [isError, diagnostic]
    · exact noted

section Load

variable {dialect : Dialect} {kindOf : Text → StatementKind}
variable (classifies : ∀ statement, dialect.classify statement = .ok (kindOf statement))
include classifies

theorem read_isWhole (statement : Text) (index : Nat) :
    ∃ reading, dialect.read statement index = .ok reading ∧ reading.IsWhole ∧ reading.index = index := by
  refine ⟨Reading.ofKind dialect (kindOf statement) statement index, ?_, ?_, ?_⟩
  · simp only [Dialect.read, classifies, bind, Except.bind, pure, Except.pure]
  · exact Reading.ofKind_isWhole ..
  · exact Reading.ofKind_index ..

/-- All statements are read. An error is noted exactly if one of them is not accepted. -/
theorem load_completes (loading : Loading) (sound : loading.IsSound statements) {entries : List (Text × Nat)}
    (listed : ∀ entry ∈ entries, statements[entry.2]? = some entry.1) :
    ∃ final, load dialect loading entries = (final, none) ∧
      attemptLoad dialect loading entries = .ok final ∧ final.IsSound statements ∧
      (final.diagnostics.any isError = true ↔ loading.diagnostics.any isError = true ∨
        ∃ entry ∈ entries, ∀ reading, dialect.read entry.1 entry.2 = .ok reading →
          reading.accepted = false) := by
  induction entries generalizing loading with
  | nil => exact ⟨loading, rfl, rfl, sound, by simp⟩
  | cons entry rest ih =>
      obtain ⟨statement, index⟩ := entry
      obtain ⟨reading, read, whole, rfl⟩ := read_isWhole classifies statement index
      have found := listed (statement, reading.index) (List.mem_cons_self ..)
      obtain ⟨final, loaded, attempted, finalSound, errors⟩ :=
        ih _ (sound.enter whole found) fun other member => listed other (List.mem_cons_of_mem _ member)
      refine ⟨final, ?_, ?_, finalSound, ?_⟩
      · rw [load, read]
        exact loaded
      · rw [attemptLoad, read]
        exact (congrArg (· >>= fun entered => attemptLoad dialect entered rest)
          (Loading.attempt_eq whole)).trans attempted
      · rw [errors, Loading.any_isError_enter whole]
        simp [read, or_assoc]

end Load

theorem exists_get?_of_contains {table : Text} (present : registry.contains table = true) :
    ∃ metadata, registry.get? table = some metadata := by
  obtain ⟨metadata, member, named⟩ := List.any_eq_true.mp present
  exact Option.isSome_iff_exists.mp (List.find?_isSome.mpr ⟨metadata, member, named⟩)

theorem addConstraint_error {table : Text} {constraint : Constraint} {error : RegistryError}
    (present : registry.contains table = true)
    (failed : registry.addConstraint table constraint = .error error) :
    ∃ name, error = .secondPrimaryKey name := by
  obtain ⟨metadata, found⟩ := exists_get?_of_contains present
  rw [Registry.addConstraint, found] at failed
  dsimp only at failed
  split at failed
  · exact ⟨metadata.name, (Except.error.inj failed).symm⟩
  · cases failed

theorem any_updateFirst {α : Type} {fits : α → Bool} {change : α → α}
    (keeps : ∀ a, fits a = true → fits (change a) = true) (list : List α) :
    (updateFirst fits change list).any fits = list.any fits := by
  induction list with
  | nil => rfl
  | cons a rest ih =>
      by_cases here : fits a = true
      · simp [updateFirst, here, keeps a here]
      · simp [updateFirst, here, ih]

theorem contains_addConstraint {table : Text} {constraint : Constraint} {changed : Registry}
    (added : registry.addConstraint table constraint = .ok changed) :
    changed.contains table = registry.contains table := by
  unfold Registry.addConstraint at added
  split at added
  · cases added
  · split at added
    · cases added
    · cases added
      refine any_updateFirst (fun metadata named => ?_) registry.tables
      rw [Registry.hasName, TableMetadata.applyConstraintFlags_name]
      exact named

theorem addIndex_of_contains {table : Text} (present : registry.contains table = true)
    (index : IndexDefinition) : ∃ changed, registry.addIndex table index = .ok changed := by
  obtain ⟨metadata, found⟩ := exists_get?_of_contains present
  rw [Registry.addIndex, found]
  exact ⟨_, rfl⟩

theorem attemptConstraints_eq {table : Text} (present : registry.contains table = true)
    (note : Text → Diagnostic) (constraints : List Constraint) :
    attemptConstraints registry table note constraints =
      .ok (addConstraints registry table note constraints) := by
  induction constraints generalizing registry with
  | nil => rfl
  | cons constraint rest ih =>
      rw [attemptConstraints, addConstraints]
      cases added : registry.addConstraint table constraint with
      | ok changed => exact ih ((contains_addConstraint added).trans present)
      | error error =>
          obtain ⟨name, rfl⟩ := addConstraint_error present added
          dsimp only
          rw [ih present]
          rfl

theorem attemptChange_eq (registry : Registry) (pending : IsPending statements (reading, statement)) :
    attemptChange statements registry reading = .ok (applyDeferred registry reading statement) := by
  obtain ⟨whole, changes, found⟩ := pending
  obtain ⟨table, named⟩ := Option.isSome_iff_exists.mp (whole.table changes)
  have defined := whole.index changes
  rw [attemptChange, demand_bind found, demand_bind named, applyDeferred, named]
  dsimp only [Option.getD_some]
  split
  · rfl
  · rename_i known
    have present : registry.contains table = true := by simpa using known
    split
    · rename_i kind
      obtain ⟨index, given⟩ := Option.isSome_iff_exists.mp (defined.trans (beq_iff_eq.mpr kind))
      obtain ⟨changed, added⟩ := addIndex_of_contains present index
      change reading.indexDefinition = some index at given
      rw [demand_bind given, given, added]
      dsimp only
      rw [added]
      rfl
    · rename_i kind
      have blank : reading.indexDefinition = none := by
        rw [← Option.not_isSome_iff_eq_none, defined]
        simpa using kind
      rw [blank]
      exact attemptConstraints_eq present ..

theorem attemptChanges_eq (registry : Registry) {deferred : List (Reading × Text)}
    (pending : ∀ entry ∈ deferred, IsPending statements entry) :
    attemptChanges statements registry (deferred.map Prod.fst) = .ok (applyAll registry deferred) := by
  induction deferred generalizing registry with
  | nil => rfl
  | cons entry rest ih =>
      obtain ⟨reading, statement⟩ := entry
      have here := attemptChange_eq registry (pending _ (List.mem_cons_self ..))
      rw [List.map_cons, attemptChanges, here]
      dsimp only [bind, Except.bind]
      rw [ih _ fun other member => pending other (List.mem_cons_of_mem _ member)]
      rfl

/-- The diagnostic shows a statement and is a warning only. -/
def Warns (statements : List Text) (shown : Diagnostic) : Prop :=
  Shows statements shown ∧ isError shown = false

theorem addConstraints_warns {table : Text} {note : Text → Diagnostic}
    (warns : ∀ message, Warns statements (note message)) (constraints : List Constraint) :
    ∀ shown ∈ (addConstraints registry table note constraints).2, Warns statements shown := by
  induction constraints generalizing registry with
  | nil => simp [addConstraints]
  | cons constraint rest ih =>
      rw [addConstraints]
      cases registry.addConstraint table constraint with
      | ok changed => exact ih
      | error error => exact List.forall_mem_cons.mpr ⟨warns _, ih⟩

theorem applyDeferred_warns (found : statements[reading.index]? = some statement) :
    ∀ shown ∈ (applyDeferred registry reading statement).2, Warns statements shown := by
  have warns : ∀ message, Warns statements (diagnostic statement reading.index .warning message) :=
    fun message => ⟨diagnostic_shows found .., rfl⟩
  unfold applyDeferred
  dsimp only
  split
  · simpa using warns _
  · split
    · split
      · simp
      · simpa using warns _
    · exact addConstraints_warns warns _

theorem applyAll_warns (registry : Registry) {deferred : List (Reading × Text)}
    (pending : ∀ entry ∈ deferred, IsPending statements entry) :
    ∀ shown ∈ (applyAll registry deferred).2, Warns statements shown := by
  induction deferred generalizing registry with
  | nil => simp [applyAll]
  | cons entry rest ih =>
      obtain ⟨reading, statement⟩ := entry
      rw [List.forall_mem_cons] at pending
      exact List.forall_mem_append.mpr ⟨applyDeferred_warns pending.1.2.2, ih _ pending.2⟩

theorem isComplete_iff (result : Result) :
    result.isComplete = true ↔ result.diagnostics.any isError = false := by
  rw [Result.isComplete, List.any_eq_false, List.all_eq_true]
  simp [isError]

/-- The state after all statements of a script are read, and what applying the changes gives. -/
theorem inferSchema_stages (config : Config) (script : Text) :
    ∃ final registry notes, applyAll final.registry final.deferred = (registry, notes) ∧
      attemptLoad Dialect.standard {} (Script.statements script).zipIdx = .ok final ∧
      final.IsSound (Script.statements script) ∧
      (final.diagnostics.any isError = true ↔ ∃ entry ∈ (Script.statements script).zipIdx, ∀ reading,
        Dialect.standard.read entry.1 entry.2 = .ok reading → reading.accepted = false) ∧
      inferSchema config script =
        infer config config.rules registry.resolveImplicitReferences (final.diagnostics ++ notes) := by
  have listed : ∀ entry ∈ (Script.statements script).zipIdx,
      (Script.statements script)[entry.2]? = some entry.1 :=
    fun entry member => List.mem_zipIdx_iff_getElem?.mp member
  obtain ⟨final, loaded, attempted, sound, errors⟩ :=
    load_completes Dialect.standard_classifies {} ⟨by simp, by simp⟩ listed
  cases changed : applyAll final.registry final.deferred with
  | mk registry notes =>
  refine ⟨final, registry, notes, changed, attempted, sound, by simpa using errors, ?_⟩
  simp only [inferSchema, run]
  rw [loaded]
  dsimp only
  rw [changed]

theorem inferSchema_shows (config : Config) (script : Text) :
    ∀ shown ∈ (inferSchema config script).diagnostics, Shows (Script.statements script) shown := by
  obtain ⟨final, registry, notes, changed, _, sound, _, ran⟩ := inferSchema_stages config script
  have warned := applyAll_warns final.registry sound.deferred
  rw [changed] at warned
  rw [ran, infer_rules]
  exact List.forall_mem_append.mpr ⟨sound.diagnostics, fun shown member => (warned shown member).1⟩

/-- Nothing that a stage takes for granted is missing in a run over the readers of this library. -/
theorem attempt_inferSchema (config : Config) (script : Text) :
    attempt Dialect.standard config config.rules script = .ok (inferSchema config script) := by
  obtain ⟨final, registry, notes, changed, attempted, sound, _, ran⟩ := inferSchema_stages config script
  have applied := attemptChanges_eq final.registry sound.deferred
  rw [changed] at applied
  rw [ran, infer_rules, attempt]
  dsimp only [bind, Except.bind]
  rw [attempted]
  dsimp only
  rw [applied]
  dsimp only
  rw [junctionTables_rules]
  dsimp only [Except.mapError]
  rw [run_rules]
  rfl

theorem inferSchema_isComplete_iff (config : Config) (script : Text) :
    (inferSchema config script).isComplete = true ↔
      ∀ index statement, (Script.statements script)[index]? = some statement →
        ∃ reading, Dialect.standard.read statement index = .ok reading ∧ reading.accepted = true := by
  obtain ⟨final, registry, notes, changed, _, sound, errors, ran⟩ := inferSchema_stages config script
  have warned := applyAll_warns final.registry sound.deferred
  rw [changed] at warned
  have errorless : notes.any isError = false :=
    List.any_eq_false.mpr fun shown member => Bool.eq_false_iff.mp (warned shown member).2
  rw [isComplete_iff, ran, infer_rules, List.any_append, errorless, Bool.or_false, ← Bool.not_eq_true, errors]
  constructor
  · intro clean index statement found
    obtain ⟨reading, read, _⟩ := read_isWhole Dialect.standard_classifies statement index
    refine ⟨reading, read, ?_⟩
    by_contra refused
    refine clean ⟨(statement, index), List.mem_zipIdx_iff_getElem?.mpr found, ?_⟩
    intro other same
    rw [read] at same
    cases same
    exact Bool.eq_false_iff.mpr refused
  · rintro accepted ⟨⟨statement, index⟩, member, refused⟩
    obtain ⟨reading, read, passed⟩ := accepted index statement (List.mem_zipIdx_iff_getElem?.mp member)
    exact Bool.false_ne_true ((refused reading read).symm.trans passed)

/-- A run over the readers of this library gives what it would give if every part that its stages take
for granted were demanded. Each diagnostic shows the statement whose index it names on one line, with
dots for what is beyond 80 characters, and the result is complete exactly if every statement is
accepted. -/
theorem inferSchema_completes (config : Config) (given : Option Text) :
    let script := given.getD []
    let statements := Script.statements script
    let result := inferSchema config script
    attempt Dialect.standard config config.rules script = .ok result ∧
      (∀ shown ∈ result.diagnostics, ∃ index statement, statements[index]? = some statement ∧
        shown.statementIndex = some index ∧ ∃ cut, shown.statement = some cut ∧ cut.length ≤ 80 ∧
          let line := [' '].intercalate ((statement.splitOnP Text.isBlank).filter fun word => !word.isEmpty)
          (line.length ≤ 80 → cut = line) ∧ (80 < line.length → cut = line.take 77 ++ "...".toList)) ∧
      (result.isComplete = true ↔ ∀ index statement, statements[index]? = some statement →
        ∃ reading, Dialect.standard.read statement index = .ok reading ∧ reading.accepted = true) := by
  intro script statements result
  refine ⟨attempt_inferSchema config script, fun shown member => ?_, inferSchema_isComplete_iff config script⟩
  obtain ⟨index, statement, found, named, text⟩ := inferSchema_shows config script shown member
  have short : ((Text.excerpt width statement).length : Int) ≤ width :=
    Text.length_excerpt_le (by decide) statement
  refine ⟨index, statement, found, named, _, text, Int.ofNat_le.mp short, fun fits => ?_, fun long => ?_⟩
  · exact Text.excerpt_eq_collapse (Int.ofNat_le.mpr fits)
  · exact Text.excerpt_eq_take 77 long

end Pipeline

end Schemata
