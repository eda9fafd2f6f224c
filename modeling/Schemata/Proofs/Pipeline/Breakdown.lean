import Schemata.Proofs.Inference.Faults
import Schemata.Proofs.Pipeline.Agreement
import Schemata.Proofs.Pipeline.Notes

/-!
What a run keeps where it breaks down. Rules may break down while junction tables are detected or in
the pass over the names of columns, and a dialect may on a statement that it is to classify. Each time
the result is what the stages before gave, with one error that belongs to no statement.
-/

namespace Schemata

open Ddl (Dialect Fault Reading StatementKind)

/-- The tables of a result have a column without a reference whose name ends in `_id` after the stem. -/
def Result.AsksFor (result : Result) (stem : Text) : Prop :=
  ∃ table ∈ result.tables, ∃ column ∈ table.columns,
    column.foreignKey = none ∧ HasIdStem column.name stem

namespace Pipeline

variable {config : Config} {rules : Rules} {registry : Registry} {diagnostics : List Diagnostic}

theorem asksFor_iff {result : Result} (tables : result.tables = registry.tables.map TableMetadata.table)
    (stem : Text) : result.AsksFor stem ↔ registry.AsksFor stem := by
  simp only [Result.AsksFor, Registry.AsksFor, tables, Prod.exists, Registry.mem_columns, idStem_eq_some,
    List.mem_map]
  constructor
  · rintro ⟨_, ⟨metadata, registered, rfl⟩, column, present, asks⟩
    exact ⟨metadata, column, ⟨registered, present⟩, asks⟩
  · rintro ⟨metadata, column, ⟨registered, present⟩, asks⟩
    exact ⟨metadata.table, ⟨metadata, registered, rfl⟩, column, present, asks⟩

/-- Rules that answer like the options detect the same junction tables. -/
theorem junctionTables_of_audits
    (audits : ∀ column, rules.isAuditColumn column = .ok (config.isAuditColumn column)) (registry : Registry) :
    junctionTables rules config.maxExtraColumns registry = .ok (junctionsOf config registry) := by
  have same : ∀ metadata, isJunction rules config.maxExtraColumns metadata =
      isJunction config.rules config.maxExtraColumns metadata := by
    intro metadata
    simp only [isJunction, audits, Config.rules]
    rfl
  rw [junctionTables, funext same]
  exact junctionTables_rules config registry

/-- A breakdown in the pass over names leaves out relationships by convention, and nothing else. -/
theorem infer_of_brokenNames (follows : rules.FollowsNames config)
    (audits : ∀ column, rules.isAuditColumn column = .ok (config.isAuditColumn column))
    (asked : config.conventions = true)
    (broken : ∃ stem fault, registry.AsksFor stem ∧ rules.candidateTables stem = .error fault) :
    ∃ stem fault, registry.AsksFor stem ∧ rules.candidateTables stem = .error fault ∧
      let normal := infer config config.rules registry diagnostics
      let partly := infer config rules registry diagnostics
      partly.tables = normal.tables ∧ partly.junctionTables = normal.junctionTables ∧
        partly.diagnostics = normal.diagnostics ++ [aborted fault] ∧
        partly.relationships.Sublist normal.relationships ∧
        ∀ link ∈ normal.relationships, link.origin ≠ .convention → link ∈ partly.relationships := by
  obtain ⟨found, later, fault, ran, whole, conventions, stem, asks, unnamed⟩ :=
    run_of_brokenNames follows asked broken (junctionsOf config registry)
  have partly : infer config rules registry diagnostics =
      { tables := registry.tables.map TableMetadata.table
        relationships := Relationship.report found
        junctionTables := junctionsOf config registry
        diagnostics := diagnostics ++ [aborted fault] } := by
    unfold infer
    rw [junctionTables_of_audits audits]
    dsimp only
    rw [ran]
    rfl
  refine ⟨stem, fault, asks, unnamed, ?_⟩
  dsimp only
  rw [partly, infer_rules, whole]
  have distinct : ((found ++ later).map Relationship.key).Nodup := whole ▸ nodup_map_found
  have distinct' : (found.map Relationship.key).Nodup :=
    ((List.sublist_append_left found later).map _).nodup distinct
  refine ⟨rfl, rfl, rfl, distinctSorted_sublist (List.sublist_append_left found later) distinct,
    fun link member other => ?_⟩
  have among : link ∈ found ++ later := (distinctSorted_perm_self distinct).mem_iff.mp member
  have early : link ∈ found := (List.mem_append.mp among).resolve_right fun inside =>
    other (conventions link inside)
  exact (distinctSorted_perm_self distinct').mem_iff.mpr early

/-- A breakdown in the detection of junction tables leaves the tables alone. -/
theorem infer_of_brokenAudit (config : Config) (rules : Rules) (diagnostics : List Diagnostic)
    (broken : ∃ metadata ∈ registry.tables, ∃ column ∈ metadata.audited, ∃ fault,
      rules.isAuditColumn column.name = .error fault) :
    ∃ fault, (∃ metadata ∈ registry.tables, ∃ column ∈ metadata.audited,
        rules.isAuditColumn column.name = .error fault) ∧
      infer config rules registry diagnostics =
        { tables := registry.tables.map TableMetadata.table, diagnostics := diagnostics ++ [aborted fault] } := by
  rcases junctionTables_cases rules config.maxExtraColumns registry with ⟨_, _, answers⟩ | ⟨fault, detected, asked⟩
  · obtain ⟨metadata, registered, column, inside, fault, unanswered⟩ := broken
    obtain ⟨audit, answered⟩ := answers metadata registered column inside
    rw [unanswered] at answered
    cases answered
  · refine ⟨fault, asked, ?_⟩
    unfold infer
    rw [detected]
    rfl

/-- A statement that cannot be classified leaves what the statements before it gave, as it was read. -/
theorem run_of_brokenStatement (dialect : Dialect) (rules : Rules) {script statement : Text}
    {before after : List Text} (statements : Script.statements script = before ++ statement :: after)
    (classified : ∀ earlier ∈ before, ∃ kind, dialect.classify earlier = .ok kind) {fault : Fault}
    (broken : dialect.classify statement = .error fault) :
    run dialect config rules script =
      { tables := (firstTables ((readingsOf dialect before.zipIdx).map Prod.snd)).map TableMetadata.table
        diagnostics := readingNotes [] (readingsOf dialect before.zipIdx) ++ [aborted fault] } := by
  have readable : ∀ entry ∈ before.zipIdx, ∃ reading, dialect.read entry.1 entry.2 = .ok reading := by
    intro entry member
    obtain ⟨kind, classified⟩ := classified entry.1 (List.fst_mem_of_mem_zipIdx member)
    exact ⟨Reading.ofKind dialect kind entry.1 entry.2,
      by simp only [Dialect.read, classified, bind, Except.bind, pure, Except.pure]⟩
  have unread : dialect.read statement before.length = .error fault := by
    simp only [Dialect.read, broken, bind, Except.bind]
  obtain ⟨final, loaded, follows⟩ := load_broken readable unread (after.zipIdx (before.length + 1))
  have places : (Script.statements script).zipIdx =
      before.zipIdx ++ (statement, before.length) :: after.zipIdx (before.length + 1) := by
    rw [statements, List.zipIdx_append, List.zipIdx_cons, Nat.zero_add]
  rw [run, places, loaded]
  dsimp only
  rw [tablesOf, follows.tables, follows.diagnostics]

/-- A run that breaks down keeps what the stages before the breakdown gave. In the pass over names it
keeps all tables, junction tables and diagnostics, and of the relationships all but some by convention,
in their order; in the detection of junction tables it keeps the tables and the diagnostics; and on a
statement that cannot be classified it keeps the tables of the statements before, as they were read,
and what reading them noted. One error that belongs to no statement comes last. -/
theorem run_keeps_stages (config : Config) (script : Text) :
    let normal := inferSchema config script
    let registry := (registryIn Dialect.standard Ddl.classify script).resolveImplicitReferences
    let last (fault : Fault) : Diagnostic :=
      { message := "Schema inference aborted: ".toList ++ fault.message
        statementIndex := none, severity := .error, statement := none }
    (∀ rules : Rules, rules.FollowsNames config →
      (∀ column, rules.isAuditColumn column = .ok (config.isAuditColumn column)) →
      config.conventions = true →
      (∃ stem fault, normal.AsksFor stem ∧ rules.candidateTables stem = .error fault) →
      ∃ stem fault, normal.AsksFor stem ∧ rules.candidateTables stem = .error fault ∧
        let partly := run Dialect.standard config rules script
        partly.tables = normal.tables ∧ partly.junctionTables = normal.junctionTables ∧
          partly.diagnostics = normal.diagnostics ++ [last fault] ∧
          partly.relationships.Sublist normal.relationships ∧
          ∀ link ∈ normal.relationships, link.origin ≠ .convention → link ∈ partly.relationships) ∧
    (∀ rules : Rules, (∃ metadata ∈ registry.tables, ∃ column ∈ metadata.audited, ∃ fault,
        rules.isAuditColumn column.name = .error fault) →
      ∃ fault, (∃ metadata ∈ registry.tables, ∃ column ∈ metadata.audited,
          rules.isAuditColumn column.name = .error fault) ∧
        run Dialect.standard config rules script =
          { tables := normal.tables, diagnostics := normal.diagnostics ++ [last fault] }) ∧
    (∀ (dialect : Dialect) (rules : Rules) (before : List Text) (statement : Text) (after : List Text)
        (fault : Fault), Script.statements script = before ++ statement :: after →
      (∀ earlier ∈ before, ∃ kind, dialect.classify earlier = .ok kind) →
      dialect.classify statement = .error fault →
      let readings := readingsOf dialect before.zipIdx
      run dialect config rules script =
        { tables := (firstTables (readings.map Prod.snd)).map TableMetadata.table
          diagnostics := readingNotes [] readings ++ [last fault] }) := by
  intro normal registry last
  obtain ⟨final, _, _, ran⟩ := run_stages Dialect.standard_classifies script
  have tables : normal.tables = registry.tables.map TableMetadata.table := by
    simp only [normal, inferSchema, ran, infer_rules, registry]
  refine ⟨fun rules follows audits asked broken => ?_, fun rules broken => ?_, ?_⟩
  · simp only [asksFor_iff tables] at broken ⊢
    simp only [normal, inferSchema, ran]
    exact infer_of_brokenNames follows audits asked broken
  · obtain ⟨fault, asked, result⟩ := infer_of_brokenAudit config rules
      (final.diagnostics ++ (applyAll final.registry final.deferred).2) broken
    refine ⟨fault, asked, ?_⟩
    rw [ran, result, tables]
    simp only [normal, inferSchema, ran, infer_rules]
    rfl
  · intro dialect rules before statement after fault statements classified broken
    exact run_of_brokenStatement dialect rules statements classified broken

def fragileScript : Text :=
  "CREATE TABLE b(id INT);CREATE TABLE a(b_id INT,c_id INT);CREATE TABLE j(x INT REFERENCES a,y INT REFERENCES b,z INT,PRIMARY KEY(x,y));DROP".toList

/-- Rules that break down on a given stem and on a given column. -/
def fragileRules (stem column : Option Text) : Rules where
  candidateTables asked :=
    if stem = some asked then .error (.breakdown "boom".toList) else return Config.candidateTables {} asked
  isAuditColumn asked :=
    if column = some asked then .error (.breakdown "boom".toList) else return Config.isAuditColumn {} asked

def fragileDialect : Dialect :=
  Ddl.Dialect.withClassifiers
    (fun statement =>
      if statement = "DROP".toList then .error (.breakdown "boom".toList) else return Ddl.classify statement)
    (fun definition => return Ddl.classifyDefinition definition)

theorem fragileRules_follow (stem column : Option Text) : (fragileRules stem column).FollowsNames {} := by
  intro asked
  unfold fragileRules
  dsimp only
  split
  · exact .inr ⟨_, rfl⟩
  · exact .inl rfl

theorem fragileRules_stem (stem : Text) (column : Option Text) :
    (fragileRules (some stem) column).candidateTables stem = .error (.breakdown "boom".toList) :=
  if_pos (rfl : some stem = some stem)

theorem fragileRules_column (stem : Option Text) (column : Text) :
    (fragileRules stem (some column)).isAuditColumn column = .error (.breakdown "boom".toList) :=
  if_pos (rfl : some column = some column)

theorem fragileDialect_classify (statement : Text) : fragileDialect.classify statement =
    if statement = "DROP".toList then .error (.breakdown "boom".toList) else .ok (Ddl.classify statement) :=
  rfl

/-- A breakdown in each of the three places: on the stem of a second column, on a column of a junction
table, and on the last of four statements. -/
theorem run_keeps_stages_boom :
    let normal := inferSchema {} fragileScript
    let registry := (registryIn Dialect.standard Ddl.classify fragileScript).resolveImplicitReferences
    let unnamed := run Dialect.standard {} (fragileRules "c".toList none) fragileScript
    let unaudited := run Dialect.standard {} (fragileRules none "z".toList) fragileScript
    let unclassified := run fragileDialect {} (Config.rules {}) fragileScript
    let before := (Script.statements fragileScript).take 3
    let last (fault : Fault) : Diagnostic :=
      { message := "Schema inference aborted: ".toList ++ fault.message
        statementIndex := none, severity := .error, statement := none }
    (normal.AsksFor "c".toList ∧ unnamed.tables = normal.tables ∧
      unnamed.relationships.Sublist normal.relationships) ∧
    ((∃ metadata ∈ registry.tables, metadata.audited.map Column.name = ["z".toList]) ∧
      ∃ fault, unaudited = { tables := normal.tables, diagnostics := normal.diagnostics ++ [last fault] }) ∧
    (Script.statements fragileScript = before ++ ["DROP".toList] ∧
      ∃ fault, unclassified.diagnostics = readingNotes [] (readingsOf fragileDialect before.zipIdx) ++
        [last fault]) := by
  intro normal registry unnamed unaudited unclassified before last
  have asks : normal.AsksFor "c".toList := by
    refine ⟨⟨"a".toList, [⟨"b_id".toList, "INT".toList, true, false, none⟩,
        ⟨"c_id".toList, "INT".toList, true, false, none⟩]⟩, by decide +kernel,
      ⟨"c_id".toList, "INT".toList, true, false, none⟩, by simp, rfl, ?_⟩
    exact idStem_eq_some.mp (by decide +kernel)
  have audited : ∃ metadata ∈ registry.tables, metadata.audited.map Column.name = ["z".toList] := by
    have found : (registry.tables.any fun metadata =>
        metadata.audited.map Column.name == ["z".toList]) = true := by decide +kernel
    simpa using found
  have split : Script.statements fragileScript = before ++ "DROP".toList :: [] := by decide +kernel
  have others : ∀ earlier ∈ before, earlier ≠ "DROP".toList := by decide +kernel
  have classified : ∀ earlier ∈ before, ∃ kind, fragileDialect.classify earlier = .ok kind := by
    intro earlier member
    exact ⟨Ddl.classify earlier, by rw [fragileDialect_classify, if_neg (others earlier member)]⟩
  have dropped : fragileDialect.classify "DROP".toList = .error (.breakdown "boom".toList) := by
    rw [fragileDialect_classify, if_pos rfl]
  refine ⟨⟨asks, ?_⟩, ⟨audited, ?_⟩, split, .breakdown "boom".toList, ?_⟩
  · obtain ⟨_, _, _, _, tables, _, _, fewer, _⟩ := (run_keeps_stages {} fragileScript).1
      (fragileRules "c".toList none) (fragileRules_follow _ _) (fun _ => rfl) rfl
      ⟨"c".toList, .breakdown "boom".toList, asks, fragileRules_stem _ _⟩
    exact ⟨tables, fewer⟩
  · obtain ⟨metadata, registered, columns⟩ := audited
    obtain ⟨column, inside, named⟩ : ∃ column ∈ metadata.audited, column.name = "z".toList :=
      List.mem_map.mp (by rw [columns]; simp)
    obtain ⟨fault, _, result⟩ := (run_keeps_stages {} fragileScript).2.1 (fragileRules none "z".toList)
      ⟨metadata, registered, column, inside, .breakdown "boom".toList, named ▸ fragileRules_column _ _⟩
    exact ⟨fault, result⟩
  · have kept := (run_keeps_stages {} fragileScript).2.2 fragileDialect (Config.rules {}) before
      "DROP".toList [] (.breakdown "boom".toList) split classified dropped
    have noted := congrArg Result.diagnostics kept
    exact noted

end Pipeline

end Schemata
