import Schemata.Proofs.Inference.Calls
import Schemata.Proofs.Pipeline.Accounts

/-!
The calls that a run makes on its registry. It registers the tables of the script, then adds what the changes
to tables add, and completes the foreign keys at last. Each constraint is read for the one call that adds it, so no
two tables come to hold one object, and the registry in memory holds just the values that the run goes on with.
-/

namespace Schemata

open Ddl (Dialect Reading)
open Heap (Call)

namespace Ddl.Reading

def registrations (reading : Reading) : List Call :=
  (reading.metadata.map Call.register).toList

/-- What a change adds to its table. A run makes these calls only if there is the table; they would be refused
without it. -/
def additions (reading : Reading) : List Call :=
  let table := reading.tableName.getD []
  match reading.indexDefinition with
  | some index => [.addIndex table index]
  | none => reading.constraints.map fun constraint => .addConstraint table (.own constraint)

end Ddl.Reading

namespace Pipeline

def callsOf (script : Text) : List Call :=
  let read := readingOf Dialect.standard Ddl.classify
  (tableStatements Dialect.standard script).flatMap (fun statement => (read statement).registrations) ++
    (changeStatements Dialect.standard script).flatMap (fun statement => (read statement).additions) ++ [.resolve]

variable (registry : Registry) (reading : Reading)

theorem foldl_perform_registrations : reading.registrations.foldl Registry.perform registry =
    enterTable registry reading := by
  rw [Reading.registrations, enterTable]
  cases reading.metadata <;> rfl

theorem perform_of_unknown {registry : Registry} {table : Text} (unknown : registry.get? table = none) :
    (∀ constraint, registry.perform (.addConstraint table (.own constraint)) = registry) ∧
      ∀ index, registry.perform (.addIndex table index) = registry := by
  refine ⟨fun constraint => ?_, fun index => ?_⟩
  · rw [Registry.perform, Registry.addConstraint, unknown]
    rfl
  · rw [Registry.perform, Registry.addIndex, unknown]
    rfl

theorem foldl_perform_additions : reading.additions.foldl Registry.perform registry =
    applyChange registry reading := by
  unfold Reading.additions applyChange
  dsimp only
  cases present : registry.contains (reading.tableName.getD []) with
  | true =>
      cases reading.indexDefinition with
      | some index => rfl
      | none => exact List.foldl_map
  | false =>
      rw [Registry.contains, List.any_eq_false] at present
      have kept := @perform_of_unknown registry _ (List.find?_eq_none.mpr present)
      cases reading.indexDefinition with
      | some index => exact kept.2 index
      | none => exact List.foldl_map.trans (List.foldl_fixed' kept.1 reading.constraints)

theorem sound_callsOf (script : Text) : ∀ call ∈ callsOf script, call.IsSound ∧ call.BringsOwn := by
  intro call member
  rcases List.mem_append.mp member with made | last
  · rcases List.mem_append.mp made with registered | added
    · obtain ⟨statement, _, among⟩ := List.mem_flatMap.mp registered
      obtain ⟨metadata, found, rfl⟩ := Option.map_eq_some_iff.mp (Option.mem_toList.mp among)
      exact ⟨⟨statement, 0, _, read_eq Dialect.standard_classifies statement 0, found⟩, trivial⟩
    · obtain ⟨statement, _, among⟩ := List.mem_flatMap.mp added
      unfold Reading.additions at among
      dsimp only at among
      split at among
      · obtain rfl := List.mem_singleton.mp among
        exact ⟨trivial, trivial⟩
      · obtain ⟨constraint, _, rfl⟩ := List.mem_map.mp among
        exact ⟨trivial, trivial⟩
  · obtain rfl := List.mem_singleton.mp last
    exact ⟨trivial, trivial⟩

theorem foldl_perform_callsOf (script : Text) : (callsOf script).foldl Registry.perform {} =
    (registryIn Dialect.standard Ddl.classify script).resolveImplicitReferences := by
  rw [callsOf, List.foldl_append, List.foldl_append, List.foldl_flatMap, List.foldl_flatMap, registryIn, registryOf,
    List.foldl_map, List.foldl_map]
  simp only [foldl_perform_registrations, foldl_perform_additions]
  rfl

/-- The tables of a schema are those of the registry in memory that the calls of the run lead to. No object is
held by two of them. -/
theorem registry_after_callsOf (script : Text) :
    let heap := Heap.after {} (callsOf script)
    heap.IsUnshared ∧
      heap.registry = (registryIn Dialect.standard Ddl.classify script).resolveImplicitReferences ∧
      ∀ config, (inferSchema config script).tables = tablesOf heap.registry := by
  intro heap
  have sound : ∀ call ∈ callsOf script, call.IsSound := fun call member => (sound_callsOf script call member).1
  have own : ∀ call ∈ callsOf script, call.BringsOwn := fun call member => (sound_callsOf script call member).2
  have registry : heap.registry = (registryIn Dialect.standard Ddl.classify script).resolveImplicitReferences :=
    (Heap.registry_after Heap.empty_isMirrored Heap.empty_isUnshared sound own).trans (foldl_perform_callsOf script)
  exact ⟨Heap.empty_isUnshared.after Heap.empty_isMirrored sound own, registry, fun config =>
    (inferSchema_tables config script).trans (congrArg tablesOf registry.symm)⟩

end Pipeline

end Schemata
