import Schemata.Proofs.Inference.Heap

/-!
Foreign keys without referenced columns, completed in place. Table by table and key by key, each is read in a
registry some of whose keys are completed already; but what is read are primary keys, and these stay as they are. So
each key gets what it would get at first. The flags of a table are set if it is the first that holds one of these
keys: to the tables after it the key is one that has its columns.
-/

namespace Schemata

namespace Registry

variable (registry : Registry)

theorem isImplicit_complete (constraint : Constraint) : isImplicit (registry.complete constraint) = false := by
  by_cases foreign : constraint.kind = .foreignKey
  · simp [isImplicit, registry.complete_referencedColumns foreign]
  · simp [isImplicit, foreign]

theorem complete_of_not_isImplicit {constraint : Constraint} (explicit : isImplicit constraint = false) :
    registry.complete constraint = constraint :=
  if_neg (Bool.eq_false_iff.mp explicit)

/-- The table with each of its constraints completed, but with the flags as they are. -/
def completeKeys (metadata : TableMetadata) : TableMetadata :=
  { metadata with constraints := metadata.constraints.map registry.complete }

theorem completeTable_eq (metadata : TableMetadata) :
    registry.completeTable metadata =
      if metadata.constraints.any isImplicit then (registry.completeKeys metadata).applyConstraintFlags
      else registry.completeKeys metadata := by
  have constraints := @completeTable_constraints registry metadata
  unfold completeTable at constraints ⊢
  split
  · rfl
  · rename_i explicit
    rw [if_neg explicit] at constraints
    rw [completeKeys, ← constraints]

end Registry

namespace Heap

variable (heap : Heap)

/-- The objects when those at some places are completed. -/
def completedAt (done : List Nat) : List Constraint :=
  heap.objects.mapIdx fun object key => if object ∈ done then heap.registry.complete key else key

/-- A foreign key without referenced columns that is still to be completed. -/
def isOpen (done : List Nat) (object : Nat) : Bool :=
  !done.contains object && heap.objects[object]?.any Registry.isImplicit

theorem getElem?_completedAt (done : List Nat) (object : Nat) :
    (heap.completedAt done)[object]? = heap.objects[object]?.map fun key =>
      if object ∈ done then heap.registry.complete key else key :=
  List.getElem?_mapIdx

theorem completedAt_nil : heap.completedAt [] = heap.objects :=
  List.ext_getElem? fun object => by simp [getElem?_completedAt]

theorem completedAt_concat (done : List Nat) (object : Nat) :
    heap.completedAt (done ++ [object]) = (heap.completedAt done).modify object heap.registry.complete := by
  refine List.ext_getElem? fun place => ?_
  rw [List.getElem?_modify, getElem?_completedAt, getElem?_completedAt, Option.map_eq_map, Option.map_map]
  congr 1
  funext key
  by_cases here : object = place
  · subst here
    by_cases known : object ∈ done
    · simp [known, heap.registry.complete_of_not_isImplicit (heap.registry.isImplicit_complete key)]
    · simp [known]
  · simp [here, Ne.symm here]

theorem any_isImplicit_completedAt (done : List Nat) (object : Nat) :
    (heap.completedAt done)[object]?.any Registry.isImplicit = heap.isOpen done object := by
  rw [getElem?_completedAt, isOpen]
  cases heap.objects[object]? with
  | none => simp
  | some key => by_cases known : object ∈ done <;> simp [known, Registry.isImplicit_complete]

variable {heap} {done : List Nat}

/-- The registry while its keys are being completed: names and what tables hold stay. -/
structure IsStage (heap : Heap) (done : List Nat) (stage : Heap) : Prop where
  objects : stage.objects = heap.completedAt done
  holders : List.Forall₂ (fun now before : Holder => now.table.name = before.table.name ∧ now.held = before.held)
    stage.holders heap.holders

namespace IsStage

variable {stage : Heap}

/-- Primary keys are not touched. -/
theorem filter_primaryKey_constraintsAt (reached : heap.IsStage done stage) (held : List Nat) :
    ((stage.constraintsAt held).filter fun constraint => constraint.kind == .primaryKey) =
      (heap.constraintsAt held).filter fun constraint => constraint.kind == .primaryKey := by
  rw [constraintsAt, constraintsAt, List.filter_filterMap, List.filter_filterMap]
  refine List.filterMap_congr fun object _ => ?_
  rw [reached.objects, getElem?_completedAt]
  cases heap.objects[object]? with
  | none => rfl
  | some key =>
      by_cases primary : key.kind = .primaryKey
      · have same : heap.registry.complete key = key :=
          heap.registry.complete_of_kind_ne (by simp [primary])
        simp [same]
      · simp only [Option.map_some, Option.filter_some]
        split <;> simp [primary]

/-- What a key is completed with does not depend on how many keys are completed already. -/
theorem complete_eq (reached : heap.IsStage done stage) : stage.registry.complete = heap.registry.complete := by
  have each : List.Forall₂ (fun left right : TableMetadata => left.name = right.name ∧
      left.primaryKeyColumns = right.primaryKeyColumns) stage.registry.tables heap.registry.tables := by
    refine List.forall₂_map_left_iff.mpr (List.forall₂_map_right_iff.mpr ?_)
    refine reached.holders.imp fun now before same => ⟨same.1, ?_⟩
    have keys := reached.filter_primaryKey_constraintsAt before.held
    simp only [TableMetadata.primaryKeyColumns, TableMetadata.primaryKey?, ← List.head?_filter, metadataOf,
      same.2, keys]
  refine Registry.complete_congr fun name => ?_
  rcases Registry.get?_cases each And.left name with ⟨unknown, unknown'⟩ | ⟨left, right, found, found', _, keys⟩
  · rw [unknown, unknown']
  · rw [found, found', Option.map_some, Option.map_some, keys]

theorem completeObject_eq (reached : heap.IsStage done stage) (changed : Bool) (object : Nat) :
    completeObject (stage, changed) object =
      ({ stage with objects := heap.completedAt (done ++ [object]) }, changed || heap.isOpen done object) := by
  rw [completeObject, reached.complete_eq, reached.objects, completedAt_concat, any_isImplicit_completedAt]

theorem foldl_completeObject (reached : heap.IsStage done stage) (changed : Bool) (held : List Nat) :
    held.foldl completeObject (stage, changed) =
      ({ stage with objects := heap.completedAt (done ++ held) }, changed || held.any (heap.isOpen done)) := by
  induction held generalizing stage done changed with
  | nil => simp [← reached.objects]
  | cons object rest ih =>
      have next : heap.IsStage (done ++ [object]) { stage with objects := heap.completedAt (done ++ [object]) } :=
        ⟨rfl, reached.holders⟩
      -- An object that stands in the list again is completed by then, but it has counted at its first place.
      have counted : (heap.isOpen done object || rest.any (heap.isOpen (done ++ [object]))) =
          (heap.isOpen done object || rest.any (heap.isOpen done)) := by
        cases here : heap.isOpen done object with
        | true => rfl
        | false =>
            refine congrArg (false || rest.any ·) (funext fun other => ?_)
            by_cases again : other = object
            · rw [again, here]
              simp [isOpen]
            · simp [isOpen, again]
      rw [List.foldl_cons, reached.completeObject_eq, ih next, List.any_cons, Bool.or_assoc, counted,
        List.append_assoc]
      rfl

end IsStage

/-! ### The tables in turn -/

variable (heap)

/-- What the tables before a place hold. -/
def heldBefore (place : Nat) : List Nat :=
  (heap.holders.take place).flatMap Holder.held

/-- The table at a place is the first that holds one of the foreign keys without referenced columns. -/
def opens (place : Nat) (holder : Holder) : Bool :=
  holder.held.any (heap.isOpen (heap.heldBefore place))

/-- The table at a place when the foreign keys are completed. -/
def completedHolder (place : Nat) (holder : Holder) : Holder :=
  if heap.opens place holder then
    { holder with table := (heap.registry.completeKeys (heap.metadataOf holder)).applyConstraintFlags.table }
  else holder

/-- The registry when the first tables are done. -/
def stageAt (count : Nat) : Heap where
  objects := heap.completedAt (heap.heldBefore count)
  holders := heap.holders.mapIdx fun place holder =>
    if place < count then heap.completedHolder place holder else holder

theorem heldBefore_succ {place : Nat} {holder : Holder} (found : heap.holders[place]? = some holder) :
    heap.heldBefore (place + 1) = heap.heldBefore place ++ holder.held := by
  rw [heldBefore, List.take_add_one, found, List.flatMap_append]
  simp [heldBefore]

theorem completedHolder_held (place : Nat) (holder : Holder) :
    (heap.completedHolder place holder).held = holder.held := by
  unfold completedHolder
  split <;> rfl

theorem completedHolder_name (place : Nat) (holder : Holder) :
    (heap.completedHolder place holder).table.name = holder.table.name := by
  unfold completedHolder
  split
  · exact TableMetadata.applyConstraintFlags_name _
  · rfl

theorem getElem?_stageAt (count place : Nat) :
    (heap.stageAt count).holders[place]? = heap.holders[place]?.map fun holder =>
      if place < count then heap.completedHolder place holder else holder :=
  List.getElem?_mapIdx

theorem stageAt_isStage (count : Nat) : heap.IsStage (heap.heldBefore count) (heap.stageAt count) where
  objects := rfl
  holders := by
    refine List.forall₂_iff_get.mpr ⟨by simp [stageAt], fun place inside inside' => ?_⟩
    simp only [stageAt, List.get_eq_getElem, List.getElem_mapIdx]
    split
    · exact ⟨heap.completedHolder_name _ _, heap.completedHolder_held _ _⟩
    · exact ⟨rfl, rfl⟩

variable {heap}

/-- What is held by a table that is done has been completed. -/
theorem constraintsAt_of_done {stage : Heap} {held : List Nat} (objects : stage.objects = heap.completedAt done)
    (all : ∀ object ∈ held, object ∈ done) :
    stage.constraintsAt held = (heap.constraintsAt held).map heap.registry.complete := by
  rw [constraintsAt, constraintsAt, List.map_filterMap]
  refine List.filterMap_congr fun object member => ?_
  rw [objects, getElem?_completedAt]
  simp only [if_pos (all object member)]

theorem resolveHolder_stageAt {place : Nat} (inside : place < heap.holders.length) :
    (heap.stageAt place).resolveHolder place = heap.stageAt (place + 1) := by
  let holder := heap.holders[place]
  have found : heap.holders[place]? = some holder := List.getElem?_eq_getElem inside
  have standing : (heap.stageAt place).holders[place]? = some holder := by
    simp [stageAt, List.getElem?_mapIdx, found]
  have after := heap.heldBefore_succ found
  let left : Heap := { heap.stageAt place with objects := heap.completedAt (heap.heldBefore (place + 1)) }
  have flags : left.flagged holder =
      { holder with table := (heap.registry.completeKeys (heap.metadataOf holder)).applyConstraintFlags.table } := by
    have constraints : left.constraintsAt holder.held =
        (heap.constraintsAt holder.held).map heap.registry.complete :=
      constraintsAt_of_done rfl fun object member => after ▸ List.mem_append_right _ member
    rw [flagged, metadataOf, constraints]
    rfl
  rw [resolveHolder, standing]
  dsimp only
  rw [(heap.stageAt_isStage place).foldl_completeObject, ← after, Bool.false_or]
  change (if heap.opens place holder = true then { left with holders := left.holders.modify place left.flagged }
    else left) = _
  have here : (heap.stageAt (place + 1)).holders[place]? = some (heap.completedHolder place holder) := by
    simp [getElem?_stageAt, found]
  have elsewhere (other : Nat) (apart : place ≠ other) :
      (heap.stageAt (place + 1)).holders[other]? = left.holders[other]? := by
    have further : other < place + 1 ↔ other < place := by omega
    exact (getElem?_stageAt ..).trans (by simp only [further, getElem?_stageAt, left])
  cases opened : heap.opens place holder with
  | true =>
      have changed : heap.completedHolder place holder = left.flagged holder := by
        rw [flags, completedHolder, if_pos opened]
      refine congrArg (Heap.mk _) (List.ext_getElem? fun other => ?_)
      by_cases same : place = other
      · subst same
        have written : (left.holders.modify place left.flagged)[place]? = some (left.flagged holder) := by
          simp [left, standing]
        exact written.trans (changed ▸ here.symm)
      · exact (List.getElem?_modify_ne _ _ same).trans (elsewhere other same).symm
  | false =>
      have kept : heap.completedHolder place holder = holder := by
        rw [completedHolder, opened, if_neg Bool.false_ne_true]
      refine congrArg (Heap.mk _) (List.ext_getElem? fun other => ?_)
      by_cases same : place = other
      · subst same
        exact standing.trans (kept ▸ here.symm)
      · exact (elsewhere other same).symm

/-- All tables are completed as if at once, each in the registry as it was. -/
theorem resolve_eq (heap : Heap) : heap.resolve =
    { objects := heap.completedAt (heap.holders.flatMap Holder.held)
      holders := heap.holders.mapIdx heap.completedHolder } := by
  have stages (count : Nat) (few : count ≤ heap.holders.length) :
      (List.range count).foldl resolveHolder heap = heap.stageAt count := by
    induction count with
    | zero =>
        have untouched : heap.holders = (heap.stageAt 0).holders :=
          List.ext_getElem? fun place => by simp [getElem?_stageAt]
        exact congrArg₂ Heap.mk heap.completedAt_nil.symm untouched
    | succ count ih =>
        rw [List.range_succ, List.foldl_append, ih (by omega)]
        exact resolveHolder_stageAt few
  have last := stages heap.holders.length (Nat.le_refl _)
  rw [resolve, last, stageAt, heldBefore, List.take_length]
  refine congrArg (Heap.mk _) (List.ext_getElem? fun place => ?_)
  rw [List.getElem?_mapIdx, List.getElem?_mapIdx]
  cases found : heap.holders[place]? with
  | none => rfl
  | some holder =>
      have inside := (List.getElem?_eq_some_iff.mp found).1
      simp [inside]

/-! ### The registry that is left -/

variable (heap)

theorem getElem?_resolve_holders (place : Nat) :
    heap.resolve.holders[place]? = heap.holders[place]?.map (heap.completedHolder place) := by
  have holders : heap.resolve.holders = heap.holders.mapIdx heap.completedHolder :=
    congrArg Heap.holders heap.resolve_eq
  rw [holders, List.getElem?_mapIdx]

theorem map_resolve_holders {α : Type} {view : Holder → α}
    (kept : ∀ place holder, view (heap.completedHolder place holder) = view holder) :
    heap.resolve.holders.map view = heap.holders.map view := by
  refine List.ext_getElem? fun place => ?_
  rw [List.getElem?_map, List.getElem?_map, getElem?_resolve_holders, Option.map_map]
  exact congrArg (Option.map · _) (funext fun holder => kept place holder)

theorem heldBefore_resolve (place : Nat) : heap.resolve.heldBefore place = heap.heldBefore place := by
  simp only [heldBefore, List.flatMap_def, List.map_take, heap.map_resolve_holders heap.completedHolder_held]

theorem getElem?_resolve_objects (object : Nat) :
    heap.resolve.objects[object]? = heap.objects[object]?.map fun key =>
      if object ∈ heap.holders.flatMap Holder.held then heap.registry.complete key else key := by
  have objects : heap.resolve.objects = heap.completedAt (heap.holders.flatMap Holder.held) :=
    congrArg Heap.objects heap.resolve_eq
  rw [objects, getElem?_completedAt]

/-- What becomes of the table at a place. -/
def completedTable (place : Nat) (holder : Holder) : TableMetadata :=
  let completed := heap.registry.completeKeys (heap.metadataOf holder)
  if heap.opens place holder then completed.applyConstraintFlags else completed

theorem metadataOf_completedHolder {place : Nat} {holder : Holder} (found : heap.holders[place]? = some holder) :
    heap.resolve.metadataOf (heap.completedHolder place holder) = heap.completedTable place holder := by
  have constraints : heap.resolve.constraintsAt holder.held =
      (heap.constraintsAt holder.held).map heap.registry.complete :=
    constraintsAt_of_done (congrArg Heap.objects heap.resolve_eq) fun object held =>
      List.mem_flatMap.mpr ⟨holder, List.mem_of_getElem? found, held⟩
  rw [metadataOf, completedHolder_held, constraints, completedHolder, completedTable]
  split <;> rfl

theorem getElem?_resolve_tables (place : Nat) :
    heap.resolve.registry.tables[place]? = heap.holders[place]?.map (heap.completedTable place) := by
  rw [registry, List.getElem?_map, getElem?_resolve_holders]
  cases found : heap.holders[place]? with
  | none => rfl
  | some holder => exact congrArg some (heap.metadataOf_completedHolder found)

/-- Of two tables that hold one key without columns, the first shows it when its columns are found. -/
example :
    let key : Constraint := { kind := .foreignKey, columns := [['x']], referencedTable := some ['t'] }
    let holder (name : Text) : Holder := { table := ⟨name, [{ name := ['x'], dataType := [] }]⟩, held := [0] }
    let heap : Heap := ⟨[key], [holder ['a'], holder ['b']]⟩
    heap.resolve.registry.tables.map (fun metadata => metadata.table.columns.map Column.foreignKey) =
      [[some ⟨some ['t'], "id".toList⟩], [none]] := by decide +kernel

/-- What holds between each table and what becomes of it holds table by table. -/
theorem forall₂_resolve {related : TableMetadata → TableMetadata → Prop}
    (each : ∀ place holder, heap.holders[place]? = some holder →
      related (heap.metadataOf holder) (heap.completedTable place holder)) :
    List.Forall₂ related heap.registry.tables heap.resolve.registry.tables := by
  have tables : heap.resolve.registry.tables = heap.holders.mapIdx heap.completedTable :=
    List.ext_getElem? fun place => (heap.getElem?_resolve_tables place).trans List.getElem?_mapIdx.symm
  rw [tables, registry]
  refine List.forall₂_iff_get.mpr ⟨by simp, fun place inside _ => ?_⟩
  simp only [List.get_eq_getElem, List.getElem_map, List.getElem_mapIdx]
  exact each place _ (List.getElem?_eq_getElem (by simpa using inside))

variable {heap} {place : Nat} {holder : Holder}

theorem mem_heldBefore {object : Nat} : object ∈ heap.heldBefore place ↔
    ∃ earlier other, earlier < place ∧ heap.holders[earlier]? = some other ∧ object ∈ other.held := by
  rw [heldBefore, List.mem_flatMap]
  constructor
  · rintro ⟨other, among, held⟩
    obtain ⟨earlier, found⟩ := List.mem_iff_getElem?.mp among
    rw [List.getElem?_take] at found
    split at found
    · exact ⟨earlier, other, ‹_›, found, held⟩
    · cases found
  · rintro ⟨earlier, other, before, found, held⟩
    exact ⟨other, List.mem_of_getElem? ((List.getElem?_take_of_lt before).trans found), held⟩

theorem IsUnshared.not_mem_heldBefore (unshared : heap.IsUnshared) (found : heap.holders[place]? = some holder) :
    ∀ object ∈ holder.held, object ∉ heap.heldBefore place := by
  intro object held before
  obtain ⟨earlier, other, first, there, heldThere⟩ := mem_heldBefore.mp before
  obtain ⟨inside, rfl⟩ := List.getElem?_eq_some_iff.mp found
  obtain ⟨inside', rfl⟩ := List.getElem?_eq_some_iff.mp there
  exact List.pairwise_iff_getElem.mp unshared earlier place inside' inside first heldThere held

/-- A table whose flags are set mirrors all that it holds. -/
theorem completedTable_mirrorsConstraints (mirrors : (heap.metadataOf holder).MirrorsKey)
    (opened : heap.opens place holder = true) : (heap.completedTable place holder).MirrorsConstraints := by
  have completed : (heap.registry.completeKeys (heap.metadataOf holder)).MirrorsKey :=
    heap.registry.mirrorsKey_map_complete mirrors
  rw [completedTable, if_pos opened]
  exact TableMetadata.mirrorsConstraints_applyConstraintFlags completed.distinct completed.oneKey
    fun column member => (completed.marked column member).mp

theorem completedTable_mirrorsKey (mirrors : (heap.metadataOf holder).MirrorsKey) :
    (heap.completedTable place holder).MirrorsKey := by
  cases opened : heap.opens place holder with
  | true => exact (completedTable_mirrorsConstraints mirrors opened).toMirrorsKey
  | false =>
      rw [completedTable, opened, if_neg Bool.false_ne_true]
      exact heap.registry.mirrorsKey_map_complete mirrors

theorem completedTable_grows (distinct : holder.table.Distinct) :
    (heap.metadataOf holder).Grows (heap.completedTable place holder) := by
  have completed : (heap.metadataOf holder).Grows (heap.registry.completeKeys (heap.metadataOf holder)) :=
    ⟨rfl, (TableMetadata.Grows.refl (heap.metadataOf holder)).columns⟩
  unfold completedTable
  dsimp only
  split
  · exact completed.trans (TableMetadata.applyConstraintFlags_grows distinct)
  · exact completed

/-- Where no earlier table holds what a table holds, it is the first for each of its keys. -/
theorem completedTable_eq (first : ∀ object ∈ holder.held, object ∉ heap.heldBefore place) :
    heap.completedTable place holder = heap.registry.completeTable (heap.metadataOf holder) := by
  have opened : heap.opens place holder = (heap.constraintsAt holder.held).any Registry.isImplicit := by
    rw [opens, Bool.eq_iff_iff, List.any_eq_true, List.any_eq_true]
    constructor
    · rintro ⟨object, held, still⟩
      have implicit := (Bool.and_eq_true_iff.mp still).2
      cases found : heap.objects[object]? with
      | none =>
          rw [found] at implicit
          cases implicit
      | some key =>
          rw [found] at implicit
          exact ⟨key, List.mem_filterMap.mpr ⟨object, held, found⟩, implicit⟩
    · rintro ⟨key, member, implicit⟩
      obtain ⟨object, held, found⟩ := List.mem_filterMap.mp member
      exact ⟨object, held, by simp [isOpen, first object held, found, implicit]⟩
  rw [Registry.completeTable_eq, completedTable, opened]
  rfl

/-- Where no object is held by two tables, the references are completed as the values are. -/
theorem registry_resolve (unshared : heap.IsUnshared) :
    heap.resolve.registry = heap.registry.resolveImplicitReferences := by
  refine congrArg Registry.mk (List.ext_getElem? fun place => (heap.getElem?_resolve_tables place).trans ?_)
  rw [registry, List.getElem?_map, List.getElem?_map]
  cases found : heap.holders[place]? with
  | none => rfl
  | some holder => exact congrArg some (completedTable_eq (unshared.not_mem_heldBefore found))

end Heap

end Schemata
