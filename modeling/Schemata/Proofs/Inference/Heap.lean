import Schemata.Inference.Heap
import Schemata.Proofs.Inference.Mirror

/-!
What writes to a registry in memory make of the registry that it holds. A write to one table leaves the others
alone, since new objects stand behind the old ones.
-/

namespace Schemata

theorem updateFirst_updateFirst {α : Type} {fits : α → Bool} (first second : α → α)
    (keeps : ∀ a, fits a = true → fits (first a) = true) (list : List α) :
    updateFirst fits second (updateFirst fits first list) =
      updateFirst fits (fun a => second (first a)) list := by
  induction list with
  | nil => rfl
  | cons a rest ih =>
      by_cases here : fits a = true
      · simp [updateFirst, here, keeps a here]
      · simp [updateFirst, here, ih]

theorem map_updateFirst_comm {α β : Type} {fits : α → Bool} {fits' : β → Bool} {change : α → α} {change' : β → β}
    {view view' : α → β} {list : List α} (same : ∀ a ∈ list, fits' (view' a) = fits a ∧ view a = view' a)
    (changed : ∀ a ∈ list, view (change a) = change' (view' a)) :
    (updateFirst fits change list).map view = updateFirst fits' change' (list.map view') := by
  induction list with
  | nil => rfl
  | cons a rest ih =>
      obtain ⟨⟨fit, here⟩, others⟩ := List.forall_mem_cons.mp same
      obtain ⟨now, later⟩ := List.forall_mem_cons.mp changed
      rw [updateFirst, List.map_cons, updateFirst, fit]
      split
      · rw [List.map_cons, now, List.map_congr_left fun a member => (others a member).2]
      · rw [List.map_cons, here, ih others later]

/-- Places behind a list, in that list with another behind it, are those of the other. -/
theorem filterMap_range'_append {α : Type} (front back : List α) :
    (List.range' front.length back.length).filterMap (fun place => (front ++ back)[place]?) = back := by
  induction back generalizing front with
  | nil => rfl
  | cons a rest ih =>
      have further := ih (front ++ [a])
      rw [List.append_assoc, List.length_append] at further
      have here : (front ++ a :: rest)[front.length]? = some a := by simp
      rw [List.length_cons, List.range'_succ, List.filterMap_cons_some here]
      exact congrArg _ further

theorem Registry.contains_iff (registry : Registry) (name : Text) :
    registry.contains name = true ↔
      Text.lower name ∈ registry.tables.map fun metadata => Text.lower metadata.name := by
  simp [contains, hasName]

namespace Heap

variable {heap other : Heap} {holder : Holder} {table : Text} {offer : Offer} {constraint : Constraint}

/-- What tables hold is there. -/
def IsClosed (heap : Heap) : Prop :=
  ∀ holder ∈ heap.holders, ∀ object ∈ holder.held, object < heap.objects.length

/-- No object is held by two tables. -/
def IsUnshared (heap : Heap) : Prop :=
  heap.holders.Pairwise fun one other => one.held.Disjoint other.held

theorem constraintsAt_congr {held : List Nat}
    (same : ∀ object ∈ held, other.objects[object]? = heap.objects[object]?) :
    other.constraintsAt held = heap.constraintsAt held :=
  List.filterMap_congr same

/-- The objects that a table holds decide on what it is. -/
theorem metadataOf_congr (same : ∀ object ∈ holder.held, other.objects[object]? = heap.objects[object]?) :
    other.metadataOf holder = heap.metadataOf holder := by
  rw [metadataOf, metadataOf, constraintsAt_congr same]

theorem IsClosed.metadataOf_append (closed : heap.IsClosed) (added : List Constraint)
    (member : holder ∈ heap.holders) :
    metadataOf { heap with objects := heap.objects ++ added } holder = heap.metadataOf holder :=
  metadataOf_congr fun object held => List.getElem?_append_left (closed holder member object held)

theorem distinct_registry_iff : heap.registry.Distinct ↔
    (heap.holders.map fun holder => Text.lower holder.table.name).Nodup := by
  rw [Registry.Distinct, registry, List.map_map]
  rfl

theorem distinct_of_names (distinct : heap.registry.Distinct)
    (names : other.holders.map (fun holder => holder.table.name) = heap.holders.map fun holder => holder.table.name) :
    other.registry.Distinct := by
  have lowered := congrArg (List.map Text.lower) names
  rw [List.map_map, List.map_map] at lowered
  exact distinct_registry_iff.mpr (lowered ▸ distinct_registry_iff.mp distinct)

theorem update_holders (distinct : heap.registry.Distinct) (table : Text) (change : Holder → Holder) :
    (heap.update table change).holders =
      heap.holders.map fun holder => if Holder.isNamed table holder then change holder else holder :=
  updateFirst_eq_map (pairwise_of_nodup_map (distinct_registry_iff.mp distinct) (Text.lower table))

theorem registry_update {change : Holder → Holder} {change' : TableMetadata → TableMetadata}
    {objects : List Constraint} (old : ∀ holder ∈ heap.holders,
      metadataOf { heap with objects } holder = heap.metadataOf holder)
    (changed : ∀ holder ∈ heap.holders,
      metadataOf { heap with objects } (change holder) = change' (heap.metadataOf holder)) :
    (update { heap with objects } table change).registry = heap.registry.update table change' :=
  congrArg Registry.mk (map_updateFirst_comm (fun holder member => ⟨rfl, old holder member⟩) changed)

theorem registry_adopt (closed : heap.IsClosed) (metadata : TableMetadata) :
    (heap.adopt metadata).registry = ⟨heap.registry.tables ++ [metadata]⟩ := by
  refine congrArg Registry.mk ?_
  rw [adopt, List.map_append]
  refine congrArg₂ _ (List.map_congr_left fun holder member => closed.metadataOf_append _ member) ?_
  exact congrArg (fun constraints => [TableMetadata.mk metadata.table constraints metadata.indexes])
    (filterMap_range'_append heap.objects metadata.constraints)

theorem IsClosed.adopt (closed : heap.IsClosed) (metadata : TableMetadata) : (heap.adopt metadata).IsClosed := by
  intro holder member object held
  rcases List.mem_append.mp member with old | new
  · exact (closed holder old object held).trans_le (by simp [Heap.adopt])
  · obtain rfl := List.mem_singleton.mp new
    have inside := (List.mem_range'_1.mp held).2
    simpa [Heap.adopt] using inside

theorem getElem?_objectsWith {object : Nat} (there : object < heap.objects.length) (offer : Offer) :
    (heap.objectsWith offer)[object]? = heap.objects[object]? := by
  cases offer with
  | own new => exact List.getElem?_append_left there
  | again object => rfl

theorem getElem?_placeOf (offered : heap.content? offer = some constraint) :
    (heap.objectsWith offer)[heap.placeOf offer]? = some constraint := by
  cases offer with
  | own new => exact List.getElem?_concat_length.trans offered
  | again object => exact offered

/-- A table with one more object, shown in its flags. -/
def withObject (heap : Heap) (offer : Offer) (holder : Holder) : Holder :=
  flagged { heap with objects := heap.objectsWith offer }
    { holder with held := holder.held ++ [heap.placeOf offer] }

@[simp] theorem withObject_held (offer : Offer) (holder : Holder) :
    (heap.withObject offer holder).held = holder.held ++ [heap.placeOf offer] := rfl

@[simp] theorem withObject_name (offer : Offer) (holder : Holder) :
    (heap.withObject offer holder).table.name = holder.table.name :=
  TableMetadata.applyConstraintFlags_name _

theorem showFlags_hold (table : Text) (offer : Offer) : (heap.hold table offer).showFlags table =
    update { heap with objects := heap.objectsWith offer } table (heap.withObject offer) :=
  congrArg (Heap.mk _) (@updateFirst_updateFirst Holder (Holder.isNamed table)
    (fun holder => { holder with held := holder.held ++ [heap.placeOf offer] })
    (flagged { heap with objects := heap.objectsWith offer }) (fun _ named => named) heap.holders)

theorem holders_hold (distinct : heap.registry.Distinct) (table : Text) (offer : Offer) :
    ((heap.hold table offer).showFlags table).holders = heap.holders.map fun holder =>
      if Holder.isNamed table holder then heap.withObject offer holder else holder := by
  have unmoved : (registry { heap with objects := heap.objectsWith offer }).Distinct :=
    distinct_of_names distinct rfl
  rw [showFlags_hold]
  exact update_holders unmoved table _

theorem IsClosed.hold (closed : heap.IsClosed) (distinct : heap.registry.Distinct)
    (offered : heap.content? offer = some constraint) (table : Text) :
    ((heap.hold table offer).showFlags table).IsClosed := by
  have old {holder : Holder} (present : holder ∈ heap.holders) {object : Nat} (held : object ∈ holder.held) :
      object < (heap.objectsWith offer).length := by
    have found := getElem?_objectsWith (closed holder present object held) offer
    rw [List.getElem?_eq_getElem (closed holder present object held)] at found
    exact (List.getElem?_eq_some_iff.mp found).1
  intro now member object held
  rw [holders_hold distinct] at member
  obtain ⟨holder, present, rfl⟩ := List.mem_map.mp member
  split at held
  · rcases List.mem_append.mp held with before | added
    · exact old present before
    · obtain rfl := List.mem_singleton.mp added
      exact (List.getElem?_eq_some_iff.mp (getElem?_placeOf offered)).1
  · exact old present held

/-- To hold one more object and to show it in the flags is to get one more constraint. -/
theorem metadataOf_withObject (closed : heap.IsClosed) (offered : heap.content? offer = some constraint)
    (member : holder ∈ heap.holders) :
    metadataOf { heap with objects := heap.objectsWith offer } (heap.withObject offer holder) =
      let metadata := heap.metadataOf holder
      { metadata with constraints := metadata.constraints ++ [constraint] }.applyConstraintFlags := by
  have constraints : constraintsAt { heap with objects := heap.objectsWith offer }
      (holder.held ++ [heap.placeOf offer]) = heap.constraintsAt holder.held ++ [constraint] := by
    rw [constraintsAt, List.filterMap_append]
    exact congrArg₂ _ (constraintsAt_congr fun object held =>
      getElem?_objectsWith (closed holder member object held) offer)
      (List.filterMap_cons_some (getElem?_placeOf offered))
  rw [withObject, flagged, metadataOf, metadataOf, constraints]
  rfl

theorem registry_hold (closed : heap.IsClosed) (offered : heap.content? offer = some constraint) :
    ((heap.hold table offer).showFlags table).registry = heap.registry.update table fun metadata =>
      { metadata with constraints := metadata.constraints ++ [constraint] }.applyConstraintFlags := by
  rw [showFlags_hold]
  exact registry_update (fun holder member => metadataOf_congr fun object held =>
      getElem?_objectsWith (closed holder member object held) offer)
    fun _ member => metadataOf_withObject closed offered member

theorem registry_holdIndex (index : IndexDefinition) :
    (heap.holdIndex table index).registry = heap.registry.update table fun metadata =>
      { metadata with indexes := metadata.indexes ++ [index] } :=
  registry_update (fun _ _ => rfl) fun _ _ => rfl

end Heap

end Schemata
