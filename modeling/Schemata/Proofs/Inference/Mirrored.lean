import Schemata.Proofs.Inference.InTurn

/-!
Registries in memory whose tables mirror the constraints that they hold. Marks follow the primary keys in every
registry that writes lead to. References follow the foreign keys of which a table is the first holder: such a key is
shown in its flags when the table gets it or when its columns are found.
-/

namespace Schemata

open TableMetadata (MirrorsKey MirrorsConstraints)

theorem TableMetadata.MirrorsKey.congr {metadata other : TableMetadata} (mirrors : metadata.MirrorsKey)
    (table : other.table = metadata.table) (constraints : other.constraints = metadata.constraints) :
    other.MirrorsKey := by
  obtain ⟨distinct, oneKey, marked⟩ := mirrors
  refine ⟨table ▸ distinct, constraints ▸ oneKey, ?_⟩
  rwa [primaryKeyColumns, primaryKey?, constraints, table]

namespace Heap

variable {heap : Heap} {place : Nat} {holder : Holder}

/-- No two tables have the same name, what they hold is there, and each mirrors its primary key and those of its
foreign keys that no table before it holds. -/
structure IsMirrored (heap : Heap) : Prop where
  distinct : heap.registry.Distinct
  closed : heap.IsClosed
  key : ∀ holder ∈ heap.holders, (heap.metadataOf holder).MirrorsKey
  referred : ∀ place holder, heap.holders[place]? = some holder →
    ∀ object ∈ holder.held, object ∉ heap.heldBefore place →
      ∀ key, heap.objects[object]? = some key → key.kind = .foreignKey → (heap.metadataOf holder).Refers key

theorem metadataOf_mirrorsKey (closed : heap.IsClosed) {next : Heap}
    (objects : ∀ object < heap.objects.length, next.objects[object]? = heap.objects[object]?)
    (member : holder ∈ heap.holders) (mirrors : (heap.metadataOf holder).MirrorsKey) {now : Holder}
    (held : now.held = holder.held) (table : now.table = holder.table) : (next.metadataOf now).MirrorsKey := by
  refine mirrors.congr table ?_
  have same : next.constraintsAt now.held = heap.constraintsAt now.held := by
    rw [held]
    exact constraintsAt_congr fun object inside => objects object (closed holder member object inside)
  exact same.trans (congrArg heap.constraintsAt held)

theorem mem_foreignKeys_metadataOf {object : Nat} (held : object ∈ holder.held) {key : Constraint}
    (found : heap.objects[object]? = some key) (foreign : key.kind = .foreignKey) :
    key ∈ (heap.metadataOf holder).foreignKeys :=
  List.mem_filter.mpr ⟨List.mem_filterMap.mpr ⟨object, held, found⟩, by simp [foreign]⟩

namespace IsMirrored

/-- Where no object is held by two tables, each table mirrors all that it holds. -/
theorem mirrorsConstraints (mirrored : heap.IsMirrored) (unshared : heap.IsUnshared) :
    ∀ metadata ∈ heap.registry.tables, metadata.MirrorsConstraints := by
  intro metadata member
  obtain ⟨holder, present, rfl⟩ := List.mem_map.mp member
  obtain ⟨place, found⟩ := List.mem_iff_getElem?.mp present
  refine ⟨mirrored.key holder present, fun key declared => ?_⟩
  obtain ⟨declared, foreign⟩ := List.mem_filter.mp declared
  obtain ⟨object, held, there⟩ := List.mem_filterMap.mp declared
  exact mirrored.referred place holder found object held (unshared.not_mem_heldBefore found object held) key there
    (by simpa using foreign)

/-- Writes that leave the old objects alone, and of which each table comes out as it was or mirroring all that it
holds. -/
theorem rewrite (mirrored : heap.IsMirrored) {next : Heap} {change : Holder → Holder} {added : List Holder}
    (holders : next.holders = heap.holders.map change ++ added) (distinct : next.registry.Distinct)
    (closed : next.IsClosed)
    (objects : ∀ object < heap.objects.length, next.objects[object]? = heap.objects[object]?)
    (grows : ∀ holder ∈ heap.holders, holder.held ⊆ (change holder).held)
    (each : ∀ holder ∈ heap.holders, (change holder).held = holder.held ∧ (change holder).table = holder.table ∨
      (next.metadataOf (change holder)).MirrorsConstraints)
    (fresh : ∀ holder ∈ added, (next.metadataOf holder).MirrorsConstraints) : next.IsMirrored where
  distinct := distinct
  closed := closed
  key holder member := by
    rw [holders] at member
    rcases List.mem_append.mp member with old | new
    · obtain ⟨before, present, rfl⟩ := List.mem_map.mp old
      rcases each before present with ⟨held, table⟩ | whole
      · exact metadataOf_mirrorsKey mirrored.closed objects present (mirrored.key before present) held table
      · exact whole.toMirrorsKey
    · exact (fresh holder new).toMirrorsKey
  referred place holder found object held first key there foreign := by
    rw [holders] at found
    have declared := mem_foreignKeys_metadataOf held there foreign
    by_cases old : place < heap.holders.length
    · rw [List.getElem?_append_left (by simpa using old), List.getElem?_map] at found
      obtain ⟨before, standing, rfl⟩ := Option.map_eq_some_iff.mp found
      have present := List.mem_of_getElem? standing
      rcases each before present with ⟨same, table⟩ | whole
      · -- What no table before holds now, none held then.
        have firstThen : object ∉ heap.heldBefore place := by
          intro sooner
          obtain ⟨earlier, other, prior, stood, holds⟩ := mem_heldBefore.mp sooner
          refine first (mem_heldBefore.mpr ⟨earlier, change other, prior, ?_, ?_⟩)
          · rw [holders, List.getElem?_append_left (by simpa using prior.trans old), List.getElem?_map, stood]
            rfl
          · exact grows other (List.mem_of_getElem? stood) holds
        rw [same] at held
        rw [objects object (mirrored.closed before present object held)] at there
        have refers := mirrored.referred place before standing object held firstThen key there foreign
        have columns : (next.metadataOf (change before)).table.columns = (heap.metadataOf before).table.columns :=
          congrArg Table.columns table
        rwa [TableMetadata.Refers, columns]
      · exact whole.referred key declared
    · rw [List.getElem?_append_right (by simpa using Nat.le_of_not_lt old)] at found
      exact (fresh holder (List.mem_of_getElem? found)).referred key declared

variable {table : Text}

/-- A table that mirrors its constraints, under a name that is free. -/
theorem adopt (mirrored : heap.IsMirrored) {metadata : TableMetadata} (mirrors : metadata.MirrorsConstraints)
    (free : heap.registry.contains metadata.name = false) : (heap.adopt metadata).IsMirrored := by
  have tables := registry_adopt mirrored.closed metadata
  let holder : Holder :=
    ⟨metadata.table, List.range' heap.objects.length metadata.constraints.length, metadata.indexes⟩
  have made : (heap.adopt metadata).metadataOf holder = metadata := by
    have last := congrArg (fun registry : Registry => registry.tables.getLast?) tables
    simpa [registry, Heap.adopt] using last
  have holders : (heap.adopt metadata).holders = heap.holders.map id ++ [holder] := by
    rw [List.map_id]
    rfl
  refine mirrored.rewrite holders ?_ (mirrored.closed.adopt metadata)
    (fun object there => List.getElem?_append_left there)
    (fun _ _ => List.Subset.refl _) (fun _ _ => .inl ⟨rfl, rfl⟩) fun new member => ?_
  · have apart : Text.lower metadata.name ∉ heap.registry.tables.map fun metadata => Text.lower metadata.name :=
      fun inside => Bool.false_ne_true (free.symm.trans ((heap.registry.contains_iff _).mpr inside))
    rw [tables, Registry.Distinct, List.map_append]
    refine mirrored.distinct.append (List.nodup_singleton _) fun name old new => ?_
    obtain rfl := List.mem_singleton.mp new
    exact apart old
  · obtain rfl := List.mem_singleton.mp member
    rwa [made]

/-- One more object, shown in the flags. -/
theorem hold (mirrored : heap.IsMirrored) {offer : Offer} {constraint : Constraint}
    (offered : heap.content? offer = some constraint)
    (allowed : ∀ metadata, heap.registry.get? table = some metadata →
      ¬ (constraint.kind = .primaryKey ∧ metadata.primaryKey?.isSome = true)) :
    ((heap.hold table offer).showFlags table).IsMirrored := by
  have closed := mirrored.closed
  let change (holder : Holder) : Holder :=
    if Holder.isNamed table holder then heap.withObject offer holder else holder
  have holders : ((heap.hold table offer).showFlags table).holders = heap.holders.map change ++ [] := by
    rw [List.append_nil]
    exact holders_hold mirrored.distinct table offer
  have name (holder : Holder) : (change holder).table.name = holder.table.name := by
    dsimp only [change]
    split
    · exact withObject_name offer holder
    · rfl
  refine mirrored.rewrite holders (distinct_of_names mirrored.distinct ?_)
    (closed.hold mirrored.distinct offered table)
    (fun object there => getElem?_objectsWith there offer) (fun holder _ => ?_) (fun holder member => ?_) nofun
  · rw [holders, List.append_nil, List.map_map]
    exact List.map_congr_left fun holder _ => name holder
  · dsimp only [change]
    split
    · exact List.subset_append_left _ _
    · exact List.Subset.refl _
  · dsimp only [change]
    split
    · rename_i named
      have found : heap.registry.get? table = some (heap.metadataOf holder) :=
        (Registry.get?_eq_some mirrored.distinct).mpr ⟨List.mem_map_of_mem member, named⟩
      have whole := (mirrored.key holder member).withConstraint (allowed _ found)
      exact .inr (metadataOf_withObject closed offered member ▸ whole)
    · exact .inl ⟨rfl, rfl⟩

theorem holdIndex (mirrored : heap.IsMirrored) (index : IndexDefinition) :
    (heap.holdIndex table index).IsMirrored := by
  let change (holder : Holder) : Holder :=
    if Holder.isNamed table holder then { holder with indexes := holder.indexes ++ [index] } else holder
  have holders : (heap.holdIndex table index).holders = heap.holders.map change ++ [] := by
    rw [List.append_nil]
    exact update_holders mirrored.distinct table _
  have kept (holder : Holder) : (change holder).held = holder.held ∧ (change holder).table = holder.table := by
    dsimp only [change]
    split <;> exact ⟨rfl, rfl⟩
  refine mirrored.rewrite holders (distinct_of_names mirrored.distinct ?_) ?_ (fun _ _ => rfl)
    (fun holder _ => (kept holder).1 ▸ List.Subset.refl _) (fun holder _ => .inl (kept holder)) nofun
  · rw [holders, List.append_nil, List.map_map]
    exact List.map_congr_left fun holder _ => congrArg Table.name (kept holder).2
  · intro now member object inside
    rw [holders, List.append_nil] at member
    obtain ⟨holder, present, rfl⟩ := List.mem_map.mp member
    exact mirrored.closed holder present object ((kept holder).1 ▸ inside)

theorem resolve (mirrored : heap.IsMirrored) : heap.resolve.IsMirrored := by
  have standing {place : Nat} {now : Holder} (found : heap.resolve.holders[place]? = some now) :
      ∃ holder, heap.holders[place]? = some holder ∧ heap.completedHolder place holder = now :=
    Option.map_eq_some_iff.mp ((heap.getElem?_resolve_holders place).symm.trans found)
  refine ⟨distinct_of_names mirrored.distinct (heap.map_resolve_holders heap.completedHolder_name),
    fun now member object held => ?_, fun now member => ?_, fun place now found object held first key there foreign => ?_⟩
  · obtain ⟨place, found⟩ := List.mem_iff_getElem?.mp member
    obtain ⟨holder, stood, rfl⟩ := standing found
    rw [completedHolder_held] at held
    have inside := List.getElem?_eq_getElem (mirrored.closed holder (List.mem_of_getElem? stood) object held)
    have kept := heap.getElem?_resolve_objects object
    rw [inside] at kept
    exact (List.getElem?_eq_some_iff.mp kept).1
  · obtain ⟨place, found⟩ := List.mem_iff_getElem?.mp member
    obtain ⟨holder, stood, rfl⟩ := standing found
    rw [heap.metadataOf_completedHolder stood]
    exact completedTable_mirrorsKey (mirrored.key holder (List.mem_of_getElem? stood))
  · obtain ⟨holder, stood, rfl⟩ := standing found
    have declared := mem_foreignKeys_metadataOf held there foreign
    rw [heap.metadataOf_completedHolder stood] at declared ⊢
    rw [completedHolder_held] at held
    rw [heldBefore_resolve] at first
    cases opened : heap.opens place holder with
    | true =>
        exact (completedTable_mirrorsConstraints (mirrored.key holder (List.mem_of_getElem? stood)) opened).referred
          key declared
    | false =>
        -- A key of which the table is the first holder would have opened it, so this one had its columns before.
        obtain ⟨before, known, same⟩ :=
          Option.map_eq_some_iff.mp ((heap.getElem?_resolve_objects object).symm.trans there)
        have explicit : Registry.isImplicit before = false := by
          have shut := List.any_eq_false.mp opened object held
          simpa [isOpen, first, known] using shut
        rw [heap.registry.complete_of_not_isImplicit explicit, ite_self] at same
        subst same
        have refers := mirrored.referred place holder stood object held first before known foreign
        have columns : (heap.completedTable place holder).table.columns = (heap.metadataOf holder).table.columns := by
          rw [completedTable, opened]
          rfl
        rwa [TableMetadata.Refers, columns]

end IsMirrored

/-! ### What no two tables hold -/

namespace IsUnshared

theorem congr (unshared : heap.IsUnshared) {next : Heap}
    (held : next.holders.map Holder.held = heap.holders.map Holder.held) : next.IsUnshared := by
  have apart : (heap.holders.map Holder.held).Pairwise List.Disjoint := List.pairwise_map.mpr unshared
  exact List.pairwise_map.mp (held ▸ apart)

theorem adopt (unshared : heap.IsUnshared) (closed : heap.IsClosed) (metadata : TableMetadata) :
    (heap.adopt metadata).IsUnshared := by
  refine List.pairwise_append.mpr ⟨unshared, List.pairwise_singleton .., fun old member new last => ?_⟩
  obtain rfl := List.mem_singleton.mp last
  intro object held fresh
  exact absurd (closed old member object held) (Nat.not_lt.mpr (List.mem_range'_1.mp fresh).1)

/-- A constraint of the caller's own is held by the table that it is added to only. -/
theorem hold (unshared : heap.IsUnshared) (mirrored : heap.IsMirrored) (table : Text) (constraint : Constraint) :
    ((heap.hold table (.own constraint)).showFlags table).IsUnshared := by
  have names := List.pairwise_map.mp (distinct_registry_iff.mp mirrored.distinct)
  rw [IsUnshared, holders_hold mirrored.distinct, List.pairwise_map]
  refine (unshared.and names).imp_of_mem fun {one other} oneIn otherIn ⟨apart, different⟩ => ?_
  have old (holder : Holder) (member : holder ∈ heap.holders) : heap.objects.length ∉ holder.held :=
    fun held => Nat.lt_irrefl _ (mirrored.closed holder member _ held)
  by_cases named : Holder.isNamed table one = true
  · have unnamed : ¬ Holder.isNamed table other = true := fun same =>
      different ((beq_iff_eq.mp named).trans (beq_iff_eq.mp same).symm)
    rw [if_pos named, if_neg unnamed, withObject_held]
    exact List.disjoint_append_left.mpr ⟨apart, List.singleton_disjoint.mpr (old other otherIn)⟩
  · rw [if_neg named]
    split
    · rw [withObject_held]
      exact List.disjoint_append_right.mpr ⟨apart, List.disjoint_singleton.mpr (old one oneIn)⟩
    · exact apart

theorem holdIndex (unshared : heap.IsUnshared) (distinct : heap.registry.Distinct) (table : Text)
    (index : IndexDefinition) : (heap.holdIndex table index).IsUnshared := by
  refine unshared.congr ?_
  rw [Heap.holdIndex, update_holders distinct, List.map_map]
  refine List.map_congr_left fun holder _ => ?_
  rw [Function.comp_apply]
  split <;> rfl

theorem resolve (unshared : heap.IsUnshared) : heap.resolve.IsUnshared :=
  unshared.congr (heap.map_resolve_holders heap.completedHolder_held)

end IsUnshared

end Heap

end Schemata
