import Schemata.Proofs.Inference.Distinct
import Schemata.Proofs.Inference.Mirrored

/-!
Registries that calls lead to, whatever the calls and in whatever order, refused ones among them. The
tables stand in the order in which their names were first registered, each mirrors its constraints,
what a flag says stays, and a call that is refused changes nothing.

A registry is owned by a single parse, and nothing in it is shared between calls: each brings a constraint of its own.
A caller who does not keep to this may add an object that tables hold already. A foreign key whose columns are found
in one table is then filled in for the others too, whose flags are not set; so in general a table mirrors the foreign
keys of which it is the first holder.
-/

namespace Schemata

open Ddl (Dialect)

namespace Heap

namespace Call

/-- A table is registered only as the parser gives it. -/
def IsSound : Call → Prop
  | .register metadata => Dialect.standard.Gives metadata
  | _ => True

/-- The call adds no object that is there already: nothing is shared between calls. So it is for all calls of a
run. -/
def BringsOwn : Call → Prop
  | .addConstraint _ (.again _) => False
  | _ => True

/-- The name that a call registers. -/
def registered? : Call → Option Text
  | .register metadata => some metadata.name
  | _ => none

end Call

/-- The calls that a registry does not take, each with its answer. -/
inductive Refuses (heap : Heap) : Call → Answer → Prop
  | taken {metadata : TableMetadata} (present : heap.registry.contains metadata.name = true) :
      Refuses heap (.register metadata) .taken
  | absent {table : Text} {offer : Offer} (nothing : heap.content? offer = none) :
      Refuses heap (.addConstraint table offer) .absent
  | unconstrained {table : Text} {offer : Offer} {constraint : Constraint}
      (offered : heap.content? offer = some constraint) (unknown : heap.registry.get? table = none) :
      Refuses heap (.addConstraint table offer) (.failed (.unknownTable table))
  | secondKey {table : Text} {offer : Offer} {constraint : Constraint} {metadata : TableMetadata}
      (offered : heap.content? offer = some constraint) (found : heap.registry.get? table = some metadata)
      (key : constraint.kind = .primaryKey) (keyed : metadata.primaryKey?.isSome = true) :
      Refuses heap (.addConstraint table offer) (.failed (.secondPrimaryKey metadata.name))
  | unindexed {table : Text} {index : IndexDefinition} (unknown : heap.registry.get? table = none) :
      Refuses heap (.addIndex table index) (.failed (.unknownTable table))

/-- What a call does: it is refused and leaves the registry as it is, or it is done. -/
inductive Moves (heap : Heap) : Call → Heap → Answer → Prop
  | refused {call : Call} {answer : Answer} (refused : heap.Refuses call answer) : Moves heap call heap answer
  | registered {metadata : TableMetadata} (free : heap.registry.contains metadata.name = false) :
      Moves heap (.register metadata) (heap.adopt metadata) .done
  | constrained {table : Text} {offer : Offer} {constraint : Constraint} {metadata : TableMetadata}
      (offered : heap.content? offer = some constraint) (found : heap.registry.get? table = some metadata)
      (allowed : ¬ (constraint.kind = .primaryKey ∧ metadata.primaryKey?.isSome = true)) :
      Moves heap (.addConstraint table offer) ((heap.hold table offer).showFlags table) .done
  | indexed {table : Text} {index : IndexDefinition} {metadata : TableMetadata}
      (found : heap.registry.get? table = some metadata) :
      Moves heap (.addIndex table index) (heap.holdIndex table index) .done
  | resolved : Moves heap .resolve heap.resolve .done

section

variable (heap : Heap) {α β : Type}

theorem get_bind (next : Heap → Access α) : (get >>= next) heap = next heap heap := rfl

theorem bind_of_ok {read : Access α} {a : α} (gives : read heap = (.ok a, heap))
    (next : α → Access β) : (read >>= next) heap = next a heap := by
  simp only [bind, ExceptT.bind, ExceptT.mk, StateT.bind, gives]
  rfl

theorem bind_of_error {read : Access α} {error : RegistryError}
    (gives : read heap = (.error error, heap)) (next : α → Access β) :
    (read >>= next) heap = (.error error, heap) := by
  simp only [bind, ExceptT.bind, ExceptT.mk, StateT.bind, gives]
  rfl

theorem require_of_found {table : Text} {metadata : TableMetadata}
    (found : heap.registry.get? table = some metadata) : Call.require table heap = (.ok metadata, heap) := by
  rw [Call.require, get_bind, found]
  rfl

theorem require_of_unknown {table : Text} (unknown : heap.registry.get? table = none) :
    Call.require table heap = (.error (.unknownTable table), heap) := by
  rw [Call.require, get_bind, unknown]
  rfl

theorem moves_answer (call : Call) : heap.Moves call (heap.answer call).1 (heap.answer call).2 := by
  unfold answer
  cases call with
  | register metadata =>
      rw [Call.run, get_bind]
      cases present : heap.registry.contains metadata.name with
      | true => exact .refused (.taken present)
      | false => exact .registered present
  | addConstraint table offer =>
      rw [Call.run, get_bind]
      cases offered : heap.content? offer with
      | none => exact .refused (.absent offered)
      | some constraint =>
          cases found : heap.registry.get? table with
          | none =>
              dsimp only
              rw [heap.bind_of_error (heap.require_of_unknown found)]
              exact .refused (.unconstrained offered found)
          | some metadata =>
              dsimp only
              rw [heap.bind_of_ok (heap.require_of_found found)]
              by_cases second : constraint.kind = .primaryKey ∧ metadata.primaryKey?.isSome = true
              · rw [if_pos second]
                exact .refused (.secondKey offered found second.1 second.2)
              · rw [if_neg second]
                exact .constrained offered found second
  | addIndex table index =>
      rw [Call.run]
      cases found : heap.registry.get? table with
      | none =>
          rw [heap.bind_of_error (heap.require_of_unknown found)]
          exact .refused (.unindexed found)
      | some metadata =>
          rw [heap.bind_of_ok (heap.require_of_found found)]
          exact .indexed found
  | resolve => exact .resolved

end

variable {heap next : Heap} {call : Call} {answer : Answer}

/-! ### One call -/

theorem IsMirrored.of_moves (mirrored : heap.IsMirrored) (sound : call.IsSound)
    (moved : heap.Moves call next answer) : next.IsMirrored := by
  cases moved with
  | refused => exact mirrored
  | registered free =>
      exact mirrored.adopt (Dialect.Gives.mirrorsConstraints (Ddl.withClassifiers_isNormal _ _) sound) free
  | constrained offered found allowed =>
      refine mirrored.hold offered fun metadata same => ?_
      obtain rfl := Option.some_inj.mp (found.symm.trans same)
      exact allowed
  | indexed => exact mirrored.holdIndex _
  | resolved => exact mirrored.resolve

theorem IsUnshared.of_moves (unshared : heap.IsUnshared) (mirrored : heap.IsMirrored) (own : call.BringsOwn)
    (moved : heap.Moves call next answer) : next.IsUnshared := by
  cases moved with
  | refused => exact unshared
  | registered => exact unshared.adopt mirrored.closed _
  | @constrained table offer =>
      cases offer with
      | own constraint => exact unshared.hold mirrored table constraint
      | again object => exact own.elim
  | indexed => exact unshared.holdIndex mirrored.distinct _ _
  | resolved => exact unshared.resolve

/-- What a call does to the tables: each has grown, and one whose name is free is put behind the others. -/
theorem Moves.tables (mirrored : heap.IsMirrored) (moved : heap.Moves call next answer) :
    ∃ kept added, next.registry.tables = kept ++ added ∧
      List.Forall₂ TableMetadata.Grows heap.registry.tables kept ∧
      added.map TableMetadata.name = firstOfEach Text.lower
        (heap.registry.tables.map fun metadata => Text.lower metadata.name) call.registered?.toList := by
  have same : List.Forall₂ TableMetadata.Grows heap.registry.tables heap.registry.tables :=
    List.forall₂_same.mpr fun metadata _ => TableMetadata.Grows.refl metadata
  have updated {table : Text} {change : TableMetadata → TableMetadata}
      (grows : ∀ metadata ∈ heap.registry.tables, metadata.Grows (change metadata)) :
      List.Forall₂ TableMetadata.Grows heap.registry.tables (heap.registry.update table change).tables := by
    rw [Registry.update_tables mirrored.distinct, List.forall₂_map_right_iff]
    refine List.forall₂_same.mpr fun metadata member => ?_
    split
    · exact grows metadata member
    · exact TableMetadata.Grows.refl metadata
  cases moved with
  | refused refused =>
      refine ⟨_, [], (List.append_nil _).symm, same, ?_⟩
      cases refused with
      | taken present =>
          have known := (heap.registry.contains_iff _).mp present
          simp [Call.registered?, firstOfEach, known]
      | absent | unconstrained | secondKey | unindexed => rfl
  | @registered metadata free =>
      refine ⟨_, [metadata], congrArg Registry.tables (registry_adopt mirrored.closed metadata), same, ?_⟩
      have unknown := mt (heap.registry.contains_iff metadata.name).mpr (by simp [free])
      simp [Call.registered?, firstOfEach, unknown]
  | constrained offered found allowed =>
      refine ⟨_, [], (List.append_nil _).symm, ?_, rfl⟩
      rw [registry_hold mirrored.closed offered]
      refine updated fun metadata member => ?_
      obtain ⟨holder, present, rfl⟩ := List.mem_map.mp member
      exact TableMetadata.withConstraint_grows (mirrored.key holder present).distinct _
  | indexed found =>
      refine ⟨_, [], (List.append_nil _).symm, ?_, rfl⟩
      rw [registry_holdIndex]
      exact updated fun metadata _ => ⟨rfl, (TableMetadata.Grows.refl metadata).columns⟩
  | resolved =>
      refine ⟨_, [], (List.append_nil _).symm, heap.forall₂_resolve fun place holder found => ?_, rfl⟩
      exact completedTable_grows (mirrored.key holder (List.mem_of_getElem? found)).distinct

end Heap

/-- What a call makes of the values. An object that is there already is none of them. -/
def Registry.perform (registry : Registry) : Heap.Call → Registry
  | .register metadata => (registry.register metadata).1
  | .addConstraint table (.own constraint) => (registry.addConstraint table constraint).toOption.getD registry
  | .addConstraint _ (.again _) => registry
  | .addIndex table index => (registry.addIndex table index).toOption.getD registry
  | .resolve => registry.resolveImplicitReferences

namespace Heap

variable {heap next : Heap} {call : Call} {answer : Answer}

/-- A call that brings its own does to the objects what it does to the values. -/
theorem Moves.registry_eq (mirrored : heap.IsMirrored) (unshared : heap.IsUnshared) (own : call.BringsOwn)
    (moved : heap.Moves call next answer) : next.registry = heap.registry.perform call := by
  cases moved with
  | refused refused =>
      cases refused with
      | taken present =>
          rw [Registry.perform, Registry.register, if_pos present]
      | @absent table offer nothing =>
          cases offer with
          | own constraint => cases nothing
          | again object => rfl
      | @unconstrained table offer constraint offered unknown =>
          cases offer with
          | own constraint =>
              rw [Registry.perform, Registry.addConstraint, unknown]
              rfl
          | again object => rfl
      | @secondKey table offer constraint metadata offered found key keyed =>
          cases offer with
          | own new =>
              obtain rfl := Option.some_inj.mp offered
              rw [Registry.perform, Registry.addConstraint, found]
              dsimp only
              rw [if_pos ⟨key, keyed⟩]
              rfl
          | again object => rfl
      | unindexed unknown =>
          rw [Registry.perform, Registry.addIndex, unknown]
          rfl
  | registered free =>
      rw [registry_adopt mirrored.closed, Registry.perform, Registry.register, free]
      rfl
  | @constrained table offer constraint metadata offered found allowed =>
      cases offer with
      | own new =>
          obtain rfl := Option.some_inj.mp offered
          rw [registry_hold mirrored.closed offered, Registry.perform, Registry.addConstraint, found]
          dsimp only
          rw [if_neg allowed]
          rfl
      | again object => exact own.elim
  | indexed found =>
      rw [registry_holdIndex, Registry.perform, Registry.addIndex, found]
      rfl
  | resolved => exact registry_resolve unshared

/-! ### A series of calls -/

theorem IsMirrored.after (mirrored : heap.IsMirrored) {calls : List Call}
    (sound : ∀ call ∈ calls, call.IsSound) : (heap.after calls).IsMirrored := by
  induction calls generalizing heap with
  | nil => exact mirrored
  | cons call rest ih =>
      obtain ⟨here, later⟩ := List.forall_mem_cons.mp sound
      exact ih (mirrored.of_moves here (heap.moves_answer call)) later

theorem IsUnshared.after (unshared : heap.IsUnshared) (mirrored : heap.IsMirrored) {calls : List Call}
    (sound : ∀ call ∈ calls, call.IsSound) (own : ∀ call ∈ calls, call.BringsOwn) :
    (heap.after calls).IsUnshared := by
  induction calls generalizing heap with
  | nil => exact unshared
  | cons call rest ih =>
      obtain ⟨here, later⟩ := List.forall_mem_cons.mp sound
      obtain ⟨ownHere, ownLater⟩ := List.forall_mem_cons.mp own
      have moved := heap.moves_answer call
      exact ih (unshared.of_moves mirrored ownHere moved) (mirrored.of_moves here moved) later ownLater

/-- Where every call brings a constraint of its own, the values follow the objects. -/
theorem registry_after (mirrored : heap.IsMirrored) (unshared : heap.IsUnshared) {calls : List Call}
    (sound : ∀ call ∈ calls, call.IsSound) (own : ∀ call ∈ calls, call.BringsOwn) :
    (heap.after calls).registry = calls.foldl Registry.perform heap.registry := by
  induction calls generalizing heap with
  | nil => rfl
  | cons call rest ih =>
      obtain ⟨here, later⟩ := List.forall_mem_cons.mp sound
      obtain ⟨ownHere, ownLater⟩ := List.forall_mem_cons.mp own
      have moved := heap.moves_answer call
      rw [List.foldl_cons, ← moved.registry_eq mirrored unshared ownHere]
      exact ih (mirrored.of_moves here moved) (unshared.of_moves mirrored ownHere moved) later ownLater

end Heap

/-- A registry at a later time: new tables stand behind the old ones, and each of these grows. -/
def Registry.Grows (before after : Registry) : Prop :=
  ∃ kept added, after.tables = kept ++ added ∧ List.Forall₂ TableMetadata.Grows before.tables kept

namespace Registry.Grows

variable {first second third : Registry}

theorem refl (registry : Registry) : registry.Grows registry :=
  ⟨registry.tables, [], (List.append_nil _).symm,
    List.forall₂_same.mpr fun metadata _ => TableMetadata.Grows.refl metadata⟩

theorem trans (early : first.Grows second) (late : second.Grows third) : first.Grows third := by
  obtain ⟨kept, added, tables, grown⟩ := early
  obtain ⟨later, more, whole, further⟩ := late
  rw [tables] at further
  -- The later tables split into those that were there at first and those that came in between.
  refine ⟨later.take kept.length, later.drop kept.length ++ more, ?_, ?_⟩
  · rw [whole, ← List.append_assoc, List.take_append_drop]
  · have both := List.forall₂_take kept.length further
    rw [List.take_left] at both
    exact forall₂_trans (fun _ _ _ before after => before.trans after) grown both

end Registry.Grows

namespace Heap

variable {heap next : Heap} {call : Call}

theorem empty_isMirrored : IsMirrored {} :=
  ⟨List.nodup_nil, nofun, nofun, nofun⟩

theorem empty_isUnshared : IsUnshared {} :=
  List.Pairwise.nil

end Heap

end Schemata
