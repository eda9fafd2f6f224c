import Schemata.Proofs.Inference.SameKeys
import Mathlib.Data.List.Permutation

/-!
The constraints of tables in another order. With one primary key at most, the order tells nothing about
keys, and so nothing about cardinalities. It tells which end of a junction table comes first, which does
not count where junction tables join their ends in both directions.
-/

namespace Schemata

theorem eq_of_perm_of_length_le_one {α : Type} {list other : List α} (perm : list.Perm other) (few : list.length ≤ 1) :
    list = other := by
  match list with
  | [] => exact (List.nil_perm.mp perm).symm
  | [_] => exact List.singleton_perm.mp perm
  | _ :: _ :: _ => simp at few

namespace TableMetadata

/-- The constraints in another order, with one primary key at most. -/
structure Reordered (one other : TableMetadata) : Prop where
  table : one.table = other.table
  indexes : one.indexes = other.indexes
  constraints : one.constraints.Perm other.constraints
  oneKey : (one.constraints.filter fun constraint => constraint.kind == .primaryKey).length ≤ 1

namespace Reordered

variable {one other : TableMetadata} {key : LinkKey}

theorem name (reordered : one.Reordered other) : one.name = other.name :=
  congrArg Table.name reordered.table

theorem foreignKeys (reordered : one.Reordered other) : one.foreignKeys.Perm other.foreignKeys :=
  reordered.constraints.filter _

theorem linked (reordered : one.Reordered other) :
    (one.foreignKeys.flatMap Constraint.columns).Perm (other.foreignKeys.flatMap Constraint.columns) :=
  reordered.foreignKeys.flatMap_right _

theorem primaryKey? (reordered : one.Reordered other) : one.primaryKey? = other.primaryKey? := by
  rw [TableMetadata.primaryKey?, TableMetadata.primaryKey?, ← List.head?_filter, ← List.head?_filter,
    eq_of_perm_of_length_le_one (reordered.constraints.filter _) reordered.oneKey]

theorem primaryKeyColumns (reordered : one.Reordered other) : one.primaryKeyColumns = other.primaryKeyColumns := by
  rw [TableMetadata.primaryKeyColumns, TableMetadata.primaryKeyColumns, reordered.primaryKey?]

theorem sameKeys (reordered : one.Reordered other) : one.SameKeys other where
  table := reordered.table
  primaryKeyColumns := reordered.primaryKeyColumns
  keys columns := by simp only [HasKey, reordered.constraints.mem_iff]

theorem isJunctionTable (reordered : one.Reordered other) (config : Config) :
    config.isJunctionTable one = config.isJunctionTable other := by
  have contains : (one.foreignKeys.flatMap Constraint.columns).contains =
      (other.foreignKeys.flatMap Constraint.columns).contains := by
    funext name
    rw [List.contains_eq_mem, List.contains_eq_mem, decide_eq_decide, reordered.linked.mem_iff]
  have formed : keysFormPrimaryKey one = keysFormPrimaryKey other := by
    simp only [keysFormPrimaryKey, reordered.primaryKeyColumns, contains, reordered.linked.all_eq]
  simp only [Config.isJunctionTable, formed, congrFun contains, reordered.foreignKeys.length_eq, reordered.table]

/-- The ends of a junction table are joined in both directions, whichever comes first. -/
theorem joins_iff (reordered : one.Reordered other) :
    one.Joins .bidirectional key ↔ other.Joins .bidirectional key := by
  suffices general : ∀ {one other : TableMetadata}, one.foreignKeys.Perm other.foreignKeys →
      one.Joins .bidirectional key → other.Joins .bidirectional key from
    ⟨general reordered.foreignKeys, general reordered.foreignKeys.symm⟩
  rintro one other perm ⟨first, second, left, right, keys, leftEnd, rightEnd, ends⟩
  rw [keys] at perm
  rcases List.perm_pair.mp perm.symm with same | swapped
  · exact ⟨first, second, left, right, same, leftEnd, rightEnd, ends⟩
  · refine ⟨second, first, right, left, swapped, rightEnd, leftEnd, ?_⟩
    exact ends.elim (fun here => .inr ⟨rfl, here⟩) fun there => .inl there.2

end Reordered

end TableMetadata

namespace Registry

/-- What is found, source by source: the declared keys, each junction table, the names of columns. -/
def sources (registry : Registry) (junctions : List Text) (config : Config) : List (List Relationship) :=
  directLinks registry junctions ::
    ((junctions.filterMap registry.get?).map (junctionLinksOf config.manyToMany) ++
      [registry.conventions config])

theorem found_eq_sources (registry : Registry) (junctions : List Text) (config : Config) :
    registry.found junctions config =
      firstOfEach Relationship.key [] (registry.sources junctions config).flatten := by
  simp only [found, sources, junctionLinks, List.flatMap_def, List.flatten_cons, List.flatten_append,
    List.flatten_nil, List.append_nil]

/-- Tables whose constraints stand in another order. -/
def Reordered (one other : Registry) : Prop :=
  List.Forall₂ TableMetadata.Reordered one.tables other.tables

namespace Reordered

variable {one other : Registry} {left right : TableMetadata} {config : Config}

theorem sameKeys (reordered : one.Reordered other) : one.SameKeys other :=
  reordered.imp fun _ _ => TableMetadata.Reordered.sameKeys

theorem junctionTables (reordered : one.Reordered other) (config : Config) :
    Schemata.junctionTables config.rules config.maxExtraColumns one =
      Schemata.junctionTables config.rules config.maxExtraColumns other := by
  rw [junctionTables_rules, junctionTables_rules]
  refine congrArg Except.ok (map_eq_of_forall₂ ?_ TableMetadata.Reordered.name)
  exact filter_of_forall₂ reordered fun here => here.isJunctionTable config

theorem foreignKeyLinks (reordered : one.Reordered other) (here : left.Reordered right) :
    (Schemata.foreignKeyLinks one left).Perm (Schemata.foreignKeyLinks other right) := by
  simp only [Schemata.foreignKeyLinks, here.name, reordered.sameKeys.cardinality]
  exact here.foreignKeys.flatMap_right _

theorem directLinks (reordered : one.Reordered other) (junctions : List Text) :
    (Schemata.directLinks one junctions).Perm (Schemata.directLinks other junctions) := by
  have outside : List.Forall₂ TableMetadata.Reordered
      (one.tables.filter fun metadata => !junctions.contains metadata.name)
      (other.tables.filter fun metadata => !junctions.contains metadata.name) :=
    filter_of_forall₂ reordered fun here => by rw [here.name]
  simp only [Schemata.directLinks, List.flatMap_def]
  refine List.Perm.flatten_congr ?_
  rw [List.forall₂_map_left_iff, List.forall₂_map_right_iff]
  exact outside.imp fun _ _ => reordered.foreignKeyLinks

theorem mem_junctionLinksOf (here : left.Reordered right) (link : Relationship) :
    link ∈ junctionLinksOf .bidirectional left ↔ link ∈ junctionLinksOf .bidirectional right := by
  rw [Schemata.mem_junctionLinksOf, Schemata.mem_junctionLinksOf, here.joins_iff, joinedLink, joinedLink,
    here.name]

/-- Each source finds the same, perhaps in another order, and one relationship under each key. -/
theorem sources (reordered : one.Reordered other) (junctions : List Text)
    (mode : config.manyToMany = .bidirectional) :
    List.Forall₂ (fun block other => (∀ link, link ∈ block ↔ link ∈ other) ∧
        ∀ link ∈ block, ∀ another ∈ block, link.key = another.key → link = another)
      (one.sources junctions config) (other.sources junctions config) := by
  have joined : List.Forall₂ TableMetadata.Reordered (junctions.filterMap one.get?)
      (junctions.filterMap other.get?) := by
    refine List.rel_filterMap (fun name _ same => ?_) (List.forall₂_eq_eq_eq ▸ rfl)
    obtain rfl := same
    rcases get?_cases reordered TableMetadata.Reordered.name name with
      ⟨none', none''⟩ | ⟨left, right, found, found', here⟩
    · rw [none', none'']
      exact .none
    · rw [found, found']
      exact .some here
  refine .cons ⟨fun link => (reordered.directLinks junctions).mem_iff, ?_⟩
    (List.rel_append ?_ (.cons ⟨?_, ?_⟩ .nil))
  · intro link member another present same
    rw [(mem_directLinks.mp member).2, (mem_directLinks.mp present).2, same]
  · rw [mode, List.forall₂_map_left_iff, List.forall₂_map_right_iff]
    refine joined.imp fun left right here => ⟨mem_junctionLinksOf here, ?_⟩
    intro link member another present same
    rw [(Schemata.mem_junctionLinksOf.mp member).2, (Schemata.mem_junctionLinksOf.mp present).2, same]
  · rw [reordered.sameKeys.conventions]
    exact fun _ => Iff.rfl
  · intro link member another present same
    rw [(mem_conventions.mp member).2.2, (mem_conventions.mp present).2.2, same]

theorem found_perm (reordered : one.Reordered other) (junctions : List Text)
    (mode : config.manyToMany = .bidirectional) :
    (one.found junctions config).Perm (other.found junctions config) := by
  rw [found_eq_sources, found_eq_sources]
  exact firstOfEach_flatten_perm (reordered.sources junctions mode)

end Reordered

/-- The order of the constraints in tables with one primary key at most does not tell which tables are
junction tables, what is a key, or what the cardinalities are. Nor does it tell which relationships
there are, where junction tables join their ends in both directions. -/
theorem reordered_agrees {one other : Registry} (reordered : one.Reordered other) (config : Config) :
    (∀ table column, one.isPrimaryKeyColumn table column = other.isPrimaryKeyColumn table column) ∧
      (∀ table column, one.hasSingleColumnKey table column = other.hasSingleColumnKey table column) ∧
      (∀ source target, one.cardinality source target = other.cardinality source target) ∧
      ∃ junctions, junctionTables config.rules config.maxExtraColumns one = .ok junctions ∧
        junctionTables config.rules config.maxExtraColumns other = .ok junctions ∧
        (config.manyToMany = .bidirectional → ∃ found found',
          (Engine.ofRegistry one junctions config config.rules).run [] = (found, none) ∧
          (Engine.ofRegistry other junctions config config.rules).run [] = (found', none) ∧
          (Relationship.report found).Perm (Relationship.report found')) := by
  have keys := reordered.sameKeys
  have detected := junctionTables_rules config one
  refine ⟨keys.isPrimaryKeyColumn, keys.hasSingleColumnKey, keys.cardinality, _, detected,
    (reordered.junctionTables config).symm.trans detected, fun mode => ?_⟩
  refine ⟨_, _, run_rules one _ config, run_rules other _ config, ?_⟩
  exact (distinctSorted_perm_self nodup_map_found).trans
    ((reordered.found_perm _ mode).trans (distinctSorted_perm_self nodup_map_found).symm)

/-- A junction table whose second foreign key is written first. -/
theorem reordered_agrees_members :
    let config : Config := { manyToMany := .bidirectional }
    let key : Constraint := { kind := .primaryKey, columns := ["user_id".toList, "role_id".toList] }
    let user : Constraint := ⟨.foreignKey, ["user_id".toList], some "users".toList, ["id".toList], none, none⟩
    let role : Constraint := ⟨.foreignKey, ["role_id".toList], some "roles".toList, ["id".toList], none, none⟩
    let one : Registry := ⟨[{ table := ⟨"members".toList, []⟩, constraints := [key, user, role] }]⟩
    let other : Registry := ⟨[{ table := ⟨"members".toList, []⟩, constraints := [role, user, key] }]⟩
    one.Reordered other ∧
      junctionTables config.rules config.maxExtraColumns other = .ok ["members".toList] ∧
      ∃ found found',
        (Engine.ofRegistry one ["members".toList] config config.rules).run [] = (found, none) ∧
        (Engine.ofRegistry other ["members".toList] config config.rules).run [] = (found', none) ∧
        found ≠ [] ∧ (Relationship.report found).Perm (Relationship.report found') := by
  intro config key user role one other
  have reordered : one.Reordered other :=
    .cons ⟨rfl, rfl, List.reverse_perm [role, user, key], by decide⟩ .nil
  have detected : junctionTables config.rules config.maxExtraColumns one = .ok ["members".toList] := by
    decide +kernel
  obtain ⟨_, _, _, junctions, here, there, both⟩ := reordered_agrees reordered config
  obtain rfl : junctions = ["members".toList] := Except.ok.inj (here.symm.trans detected)
  obtain ⟨found, found', ran, ran', reports⟩ := both rfl
  refine ⟨reordered, there, found, found', ran, ran', fun none => ?_, reports⟩
  rw [none] at ran
  exact absurd ran (by decide +kernel)

end Registry

end Schemata
