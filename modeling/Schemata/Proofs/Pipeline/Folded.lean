import Schemata.Proofs.Inference.Folded
import Schemata.Proofs.Pipeline.Completion

/-!
The schema of a script does not depend on the case of its ASCII letters. Two runs, over a script and over
the folded one, go side by side: the registries differ in what folding changes, and a diagnostic of the one
stands for a diagnostic of the other.
-/

namespace Schemata

open Text

/-- What a diagnostic tells but for its words. -/
def Diagnostic.place (diagnostic : Diagnostic) : Option Nat × Severity :=
  (diagnostic.statementIndex, diagnostic.severity)

namespace Pipeline

open Ddl (Dialect Fault Reading)

theorem map_place_diagnostic (statement : Text) (index : Nat) (severity : Severity) (messages : List Text) :
    (messages.map (diagnostic statement index severity)).map Diagnostic.place =
      List.replicate messages.length (some index, severity) := by
  rw [List.map_map, List.eq_replicate_iff]
  simp [diagnostic, Diagnostic.place]

variable {one other : Reading} {statement statement' : Text}

theorem map_place_diagnosticsOf (alike : one.Matches other) :
    (diagnosticsOf statement' other).map Diagnostic.place = (diagnosticsOf statement one).map Diagnostic.place := by
  simp only [diagnosticsOf, List.map_append, map_place_diagnostic, alike.errors, alike.warnings, alike.index]

/-- Two states of reading, over a script and over the folded one. -/
structure Loading.Matches (loading loading' : Loading) : Prop where
  registry : loading'.registry = loading.registry.folded
  diagnostics : loading'.diagnostics.map Diagnostic.place = loading.diagnostics.map Diagnostic.place
  deferred : List.Forall₂ (fun change change' => change.1.Matches change'.1) loading.deferred loading'.deferred

variable {loading loading' : Loading}

/-- Entering matching readings keeps states matching. -/
theorem Loading.Matches.enter (states : loading.Matches loading') (alike : one.Matches other) :
    (loading.enter statement one).Matches (loading'.enter statement' other) := by
  have diagnostics : (loading'.diagnostics ++ diagnosticsOf statement' other).map Diagnostic.place =
      (loading.diagnostics ++ diagnosticsOf statement one).map Diagnostic.place := by
    rw [List.map_append, List.map_append, states.diagnostics, map_place_diagnosticsOf alike]
  have noted : Loading.Matches
      { loading with diagnostics := loading.diagnostics ++ diagnosticsOf statement one }
      { loading' with diagnostics := loading'.diagnostics ++ diagnosticsOf statement' other } :=
    ⟨states.registry, diagnostics, states.deferred⟩
  unfold Loading.enter
  rw [alike.accepted, alike.kind, alike.metadata]
  split
  · exact noted
  · split
    · cases one.metadata with
      | none => exact noted
      | some metadata =>
          simp only [Option.map_some, states.registry, Registry.register_folded]
          cases loading.registry.register metadata with
          | mk registry isNew =>
              cases isNew with
              | true => exact { noted with registry := rfl }
              | false =>
                  refine ⟨rfl, ?_, states.deferred⟩
                  have further := congrArg (· ++ [(some one.index, Severity.warning)]) diagnostics
                  simpa [diagnostic, Diagnostic.place, alike.index] using further
    · exact { noted with deferred := List.rel_append states.deferred (.cons alike .nil) }

theorem load_folded (states : loading.Matches loading') (entries : List (Text × Nat)) :
    ∃ final final', load Dialect.standard loading entries = (final, none) ∧
      load Dialect.standard loading' (entries.map fun (statement, index) => (folded statement, index)) =
        (final', none) ∧ final.Matches final' := by
  induction entries generalizing loading loading' with
  | nil => exact ⟨loading, loading', rfl, rfl, states⟩
  | cons entry rest ih =>
      obtain ⟨statement, index⟩ := entry
      have read : ∀ statement, Dialect.standard.read statement index =
          .ok (Reading.ofKind Dialect.standard (Ddl.classify statement) statement index) := by
        intro statement
        rw [Dialect.read, Dialect.standard_classifies]
        rfl
      simp only [List.map_cons, load, read, Ddl.classify_folded]
      exact ih (states.enter (Reading.ofKind_folded _ statement index))

/-! ### Changes -/

theorem addConstraints_folded {note note' : Text → Diagnostic}
    (places : ∀ message message', (note' message').place = (note message).place) (table : Text)
    (constraints : List Constraint) (registry : Registry) :
    (addConstraints registry.folded table note' (constraints.map Constraint.folded)).1 =
        (addConstraints registry table note constraints).1.folded ∧
      (addConstraints registry.folded table note' (constraints.map Constraint.folded)).2.map Diagnostic.place =
        (addConstraints registry table note constraints).2.map Diagnostic.place := by
  induction constraints generalizing registry with
  | nil => exact ⟨rfl, rfl⟩
  | cons constraint rest ih =>
      rw [List.map_cons, addConstraints, addConstraints, Registry.addConstraint_folded]
      cases registry.addConstraint table constraint with
      | ok changed => exact ih changed
      | error error =>
          obtain ⟨registries, notes⟩ := ih registry
          exact ⟨registries, congrArg₂ List.cons (places ..) notes⟩

theorem applyDeferred_folded (alike : one.Matches other) (registry : Registry) (statement statement' : Text) :
    (applyDeferred registry.folded other statement').1 = (applyDeferred registry one statement).1.folded ∧
      (applyDeferred registry.folded other statement').2.map Diagnostic.place =
        (applyDeferred registry one statement).2.map Diagnostic.place := by
  have places : ∀ message message', (diagnostic statement' other.index .warning message').place =
      (diagnostic statement one.index .warning message).place := by
    intro message message'
    rw [alike.index]
    rfl
  unfold applyDeferred
  simp only [alike.tableName, Registry.contains_folded]
  split
  · exact ⟨rfl, congrArg (fun place => [place]) (places ..)⟩
  · rw [alike.indexDefinition, alike.constraints]
    cases one.indexDefinition with
    | none => exact addConstraints_folded places ..
    | some index =>
        simp only [Registry.addIndex_folded]
        cases registry.addIndex (one.tableName.getD []) index with
        | ok changed => exact ⟨rfl, rfl⟩
        | error error => exact ⟨rfl, congrArg (fun place => [place]) (places ..)⟩

theorem applyAll_folded {deferred deferred' : List (Reading × Text)}
    (alike : List.Forall₂ (fun change change' => change.1.Matches change'.1) deferred deferred')
    (registry : Registry) :
    (applyAll registry.folded deferred').1 = (applyAll registry deferred).1.folded ∧
      (applyAll registry.folded deferred').2.map Diagnostic.place =
        (applyAll registry deferred).2.map Diagnostic.place := by
  induction alike generalizing registry with
  | nil => exact ⟨rfl, rfl⟩
  | @cons change change' _ _ head _ ih =>
      obtain ⟨reading, statement⟩ := change
      obtain ⟨reading', statement'⟩ := change'
      obtain ⟨applied, notes⟩ := applyDeferred_folded head registry statement statement'
      rw [applyAll, applyAll]
      dsimp only
      rw [List.map_append, List.map_append, applied, notes]
      obtain ⟨final, others⟩ := ih (applyDeferred registry reading statement).1
      exact ⟨final, by rw [others]⟩

end Pipeline

open Pipeline

/-- Two results that differ in what folding changes and in the words of their diagnostics. -/
structure Result.Matches (one other : Result) : Prop where
  tables : other.tables = one.tables.map Table.folded
  relationships : other.relationships = one.relationships
  junctionTables : other.junctionTables = one.junctionTables
  diagnostics : other.diagnostics.map Diagnostic.place = one.diagnostics.map Diagnostic.place

theorem infer_folded (config : Config) (registry : Registry) {diagnostics diagnostics' : List Diagnostic}
    (places : diagnostics'.map Diagnostic.place = diagnostics.map Diagnostic.place) :
    (infer config config.rules registry diagnostics).Matches
      (infer config config.rules registry.folded diagnostics') := by
  have junctions : junctionsOf config registry.folded = junctionsOf config registry := by
    rw [junctionsOf, junctionsOf, Registry.folded, List.filter_map, List.map_map,
      show config.isJunctionTable ∘ TableMetadata.folded = config.isJunctionTable from
        funext (Registry.isJunctionTable_folded config)]
    rfl
  rw [infer_rules, infer_rules, junctions]
  refine ⟨?_, congrArg Relationship.report (registry.found_folded ..), rfl, places⟩
  simp only [Registry.folded, List.map_map]
  rfl

/-- Folding a script folds the types in its schema, and changes nothing else but words of diagnostics. -/
theorem inferSchema_folded (config : Config) (script : Text) :
    (inferSchema config script).Matches (inferSchema config (folded script)) := by
  have start : Loading.Matches {} {} := ⟨rfl, rfl, .nil⟩
  obtain ⟨final, final', loaded, loaded', states⟩ := load_folded start (Script.statements script).zipIdx
  have listed : (Script.statements (folded script)).zipIdx =
      (Script.statements script).zipIdx.map fun (statement, index) => (folded statement, index) := by
    rw [Script.statements_folded, List.zipIdx_map]
    rfl
  obtain ⟨applied, notes⟩ := applyAll_folded states.deferred final.registry
  rw [inferSchema, inferSchema, run, run, listed, loaded, loaded']
  dsimp only
  rw [states.registry, applied, Registry.resolveImplicitReferences_folded]
  refine infer_folded config _ ?_
  rw [List.map_append, List.map_append, states.diagnostics, notes]

/-- Two scripts that agree up to the case of ASCII letters have one schema, up to the case of the types in
it, and diagnostics of the same severities about the same statements. -/
theorem inferSchema_eq_of_same_letters (config : Config) {one other : Text}
    (same : List.Forall₂ (fun c d : Char => c.toLower = d.toLower) one other) :
    (inferSchema config one).tables.map Table.folded = (inferSchema config other).tables.map Table.folded ∧
      (inferSchema config one).relationships = (inferSchema config other).relationships ∧
      (inferSchema config one).junctionTables = (inferSchema config other).junctionTables ∧
      (inferSchema config one).diagnostics.map Diagnostic.place =
        (inferSchema config other).diagnostics.map Diagnostic.place := by
  have alike : folded one = folded other := by
    rw [folded, folded, ← List.forall₂_eq_eq_eq, List.forall₂_map_left_iff, List.forall₂_map_right_iff]
    exact same
  have first := inferSchema_folded config one
  have second := inferSchema_folded config other
  rw [← alike] at second
  exact ⟨first.tables.symm.trans second.tables, first.relationships.symm.trans second.relationships,
    first.junctionTables.symm.trans second.junctionTables, first.diagnostics.symm.trans second.diagnostics⟩

/-- Keywords, names and types in either case; the second statement is refused. -/
theorem inferSchema_eq_of_shouted :
    let quiet := "create table a (id int primary key);create table b;Create Table c (a_id Int(4))".toList
    let loud := "CREATE TABLE A (ID INT PRIMARY KEY);CREATE TABLE B;cREATE tABLE C (A_ID iNT(4))".toList
    List.Forall₂ (fun c d : Char => c.toLower = d.toLower) quiet loud ∧
      (inferSchema {} quiet).relationships = (inferSchema {} loud).relationships ∧
      (inferSchema {} quiet).relationships ≠ [] ∧
      (inferSchema {} quiet).tables ≠ (inferSchema {} loud).tables := by
  intro quiet loud
  have same : List.Forall₂ (fun c d : Char => c.toLower = d.toLower) quiet loud := by decide +kernel
  have linked : (inferSchema {} quiet).relationships ≠ [] := by decide +kernel
  have types : (inferSchema {} quiet).tables ≠ (inferSchema {} loud).tables := by decide +kernel
  exact ⟨same, (inferSchema_eq_of_same_letters {} same).2.1, linked, types⟩

end Schemata
