import Schemata.Inference.Registry

/-!
A registry as it stands in memory, with the calls on it. Constraints are objects there, and a table holds them by
their places, so several tables may hold one object, and what is written into it shows in all of them. `Registry` is
what such a registry holds at a time, and where no object is held by two tables it is all that there is to know.
-/

namespace Schemata

/-- A table that holds its constraints by their places among the objects. -/
structure Holder where
  table : Table
  held : List Nat := []
  indexes : List IndexDefinition := []
deriving DecidableEq, Repr

def Holder.isNamed (name : Text) (holder : Holder) : Bool :=
  Text.lower holder.table.name == Text.lower name

/-- What is added to a table: a constraint of the caller's own, or an object that is there already. -/
inductive Offer
  | own (constraint : Constraint)
  | again (object : Nat)
deriving DecidableEq, Repr

structure Heap where
  objects : List Constraint := []
  holders : List Holder := []
deriving DecidableEq, Repr

namespace Heap

def constraintsAt (heap : Heap) (held : List Nat) : List Constraint :=
  held.filterMap fun object => heap.objects[object]?

def metadataOf (heap : Heap) (holder : Holder) : TableMetadata :=
  ⟨holder.table, heap.constraintsAt holder.held, holder.indexes⟩

/-- What the registry holds at the time. -/
def registry (heap : Heap) : Registry :=
  ⟨heap.holders.map heap.metadataOf⟩

def content? (heap : Heap) : Offer → Option Constraint
  | .own constraint => some constraint
  | .again object => heap.objects[object]?

/-! ### Writes -/

/-- Puts a table behind the others. Its constraints are new objects. -/
def adopt (heap : Heap) (metadata : TableMetadata) : Heap where
  objects := heap.objects ++ metadata.constraints
  holders := heap.holders ++
    [⟨metadata.table, List.range' heap.objects.length metadata.constraints.length, metadata.indexes⟩]

def update (heap : Heap) (name : Text) (change : Holder → Holder) : Heap :=
  { heap with holders := updateFirst (Holder.isNamed name) change heap.holders }

/-- The objects, with a new one for a constraint of the caller's own. -/
def objectsWith (heap : Heap) : Offer → List Constraint
  | .own constraint => heap.objects ++ [constraint]
  | .again _ => heap.objects

/-- The place of what is offered among the objects. -/
def placeOf (heap : Heap) : Offer → Nat
  | .own _ => heap.objects.length
  | .again object => object

/-- Puts what is offered behind the constraints of a table. -/
def hold (heap : Heap) (table : Text) (offer : Offer) : Heap :=
  update { heap with objects := heap.objectsWith offer } table fun holder =>
    { holder with held := holder.held ++ [heap.placeOf offer] }

def holdIndex (heap : Heap) (table : Text) (index : IndexDefinition) : Heap :=
  heap.update table fun holder => { holder with indexes := holder.indexes ++ [index] }

/-- Shows the constraints of a table in its flags. -/
def flagged (heap : Heap) (holder : Holder) : Holder :=
  { holder with table := (heap.metadataOf holder).applyConstraintFlags.table }

def showFlags (heap : Heap) (table : Text) : Heap :=
  heap.update table heap.flagged

/-! ### Completing the references -/

/-- Completes an object, and tells whether this or an earlier one was a foreign key without referenced columns. -/
def completeObject (state : Heap × Bool) (object : Nat) : Heap × Bool :=
  let (heap, changed) := state
  ({ heap with objects := heap.objects.modify object heap.registry.complete },
    changed || heap.objects[object]?.any Registry.isImplicit)

/-- Completes the foreign keys of the table at a place. Its flags are set if one of them had no columns. -/
def resolveHolder (heap : Heap) (place : Nat) : Heap :=
  match heap.holders[place]? with
  | none => heap
  | some holder =>
      let (left, changed) := holder.held.foldl completeObject (heap, false)
      if changed then { left with holders := left.holders.modify place left.flagged } else left

/-- Completes the foreign keys in place, table by table and key by key. -/
def resolve (heap : Heap) : Heap :=
  (List.range heap.holders.length).foldl resolveHolder heap

/-! ### Calls -/

/-- A call on a registry. -/
inductive Call
  | register (metadata : TableMetadata)
  | addConstraint (table : Text) (offer : Offer)
  | addIndex (table : Text) (index : IndexDefinition)
  | resolve
deriving DecidableEq, Repr

/-- What a call answers. -/
inductive Answer
  | done
  /-- The name of the table is taken. -/
  | taken
  /-- There is no such object to add. -/
  | absent
  | failed (error : RegistryError)
deriving DecidableEq, Repr

/-- What reads and writes a registry and may fail: what was written before a failure is kept. -/
abbrev Access (α : Type) := ExceptT RegistryError (StateM Heap) α

namespace Call

/-- The table of a name, which a call cannot do without. -/
def require (table : Text) : Access TableMetadata := do
  match (← get).registry.get? table with
  | none => throw (.unknownTable table)
  | some metadata => return metadata

/-- A call write by write. -/
def run : Call → Access Answer
  | .register metadata => do
      if (← get).registry.contains metadata.name then return .taken
      modify (·.adopt metadata)
      return .done
  | .addConstraint table offer => do
      match (← get).content? offer with
      | none => return .absent
      | some constraint =>
          let metadata ← require table
          if constraint.kind = .primaryKey ∧ metadata.primaryKey?.isSome then
            throw (.secondPrimaryKey metadata.name)
          modify (·.hold table offer)
          modify (·.showFlags table)
          return .done
  | .addIndex table index => do
      let _ ← require table
      modify (·.holdIndex table index)
      return .done
  | .resolve => do
      modify Heap.resolve
      return .done

end Call

/-- The registry that a call leaves, and what the call answers. -/
def answer (heap : Heap) (call : Call) : Heap × Answer :=
  match call.run heap with
  | (.ok answer, left) => (left, answer)
  | (.error error, left) => (left, .failed error)

/-- The registry after a series of calls. -/
def after (heap : Heap) (calls : List Call) : Heap :=
  calls.foldl (fun heap call => (heap.answer call).1) heap

end Heap

end Schemata
