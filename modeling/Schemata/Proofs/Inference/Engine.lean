import Schemata.Proofs.Inference.Distinct
import Schemata.Proofs.Inference.Sources

/-!
What the passes of the engine give in all: a relationship for each key that a foreign key declares,
a junction joins or a name suggests, told by the first of the three that has the key.
-/

namespace Schemata

def Origin.turn : Origin → Nat
  | direct => 0
  | junction => 1
  | convention => 2

/-- One of the listed junctions that are registered joins the columns. -/
def Registry.Joined (registry : Registry) (junctions : List Text) (mode : ManyToManyMode)
    (key : LinkKey) : Prop :=
  ∃ metadata ∈ junctions.filterMap registry.get?, metadata.Joins mode key

/-- The relationships that `junctions` and `config` give over a registry, all in one: which keys
there are, which source tells each, and in which order they stand. -/
structure Inferred (registry : Registry) (junctions : List Text) (config : Config)
    (result : List Relationship) : Prop where
  distinct : (result.map Relationship.key).Nodup
  complete : ∀ key, key ∈ result.map Relationship.key ↔
    registry.Declares junctions key ∨ registry.Joined junctions config.manyToMany key ∨
      config.conventions = true ∧ registry.Suggests config key
  declared : ∀ link ∈ result, registry.Declares junctions link.key →
    link.origin = .direct ∧ link.junctionTable = none ∧
      registry.Classifies link.key link.cardinality
  joined : ∀ link ∈ result, ¬ registry.Declares junctions link.key →
    registry.Joined junctions config.manyToMany link.key →
    link.origin = .junction ∧ link.cardinality = .manyToMany ∧
      ∃ before metadata after, junctions.filterMap registry.get? = before ++ metadata :: after ∧
        metadata.Joins config.manyToMany link.key ∧
        (∀ earlier ∈ before, ¬ earlier.Joins config.manyToMany link.key) ∧
        link.junctionTable = some metadata.name
  suggested : ∀ link ∈ result, ¬ registry.Declares junctions link.key →
    ¬ registry.Joined junctions config.manyToMany link.key →
    link.origin = .convention ∧ link.junctionTable = none ∧
      registry.Classifies link.key link.cardinality
  ordered : result.Pairwise fun left right => left.sortKey.le right.sortKey = true
  ties : result.Pairwise fun left right =>
    left.sortKey = right.sortKey → left.origin.turn ≤ right.origin.turn

namespace Inferred

variable {registry : Registry} {junctions : List Text} {config : Config} {result : List Relationship}
  {link : Relationship}

theorem declares_of_direct (inferred : Inferred registry junctions config result) (member : link ∈ result)
    (direct : link.origin = .direct) : registry.Declares junctions link.key := by
  by_contra free
  by_cases joins : registry.Joined junctions config.manyToMany link.key
  · have origin := (inferred.joined link member free joins).1
    rw [direct] at origin
    cases origin
  · have origin := (inferred.suggested link member free joins).1
    rw [direct] at origin
    cases origin

theorem asked_and_suggests_of_convention (inferred : Inferred registry junctions config result)
    (member : link ∈ result) (convention : link.origin = .convention) :
    config.conventions = true ∧ registry.Suggests config link.key := by
  have free : ¬ registry.Declares junctions link.key := by
    intro declares
    have origin := (inferred.declared link member declares).1
    rw [convention] at origin
    cases origin
  have unjoined : ¬ registry.Joined junctions config.manyToMany link.key := by
    intro joins
    have origin := (inferred.joined link member free joins).1
    rw [convention] at origin
    cases origin
  rcases (inferred.complete link.key).mp (List.mem_map_of_mem member) with declares | joins | suggests
  · exact absurd declares free
  · exact absurd joins unjoined
  · exact suggests

theorem suggests_of_convention (inferred : Inferred registry junctions config result)
    (member : link ∈ result) (convention : link.origin = .convention) :
    registry.Suggests config link.key :=
  (inferred.asked_and_suggests_of_convention member convention).2

end Inferred

def Registry.conventions (registry : Registry) (config : Config) : List Relationship :=
  if config.conventions then registry.columns.flatMap (suggestedLinks registry config) else []

theorem mem_conventions {registry : Registry} {config : Config} {link : Relationship} :
    link ∈ registry.conventions config ↔
      config.conventions = true ∧ registry.Suggests config link.key ∧
        link = suggestedLink registry link.key := by
  unfold Registry.conventions
  split
  · rename_i asked
    rw [mem_suggestedLinks]
    simp [asked]
  · rename_i off
    simp [off]

def Registry.found (registry : Registry) (junctions : List Text) (config : Config) :
    List Relationship :=
  firstOfEach Relationship.key [] (directLinks registry junctions ++
    (junctionLinks registry junctions config.manyToMany ++ registry.conventions config))

/-- Under plain options the engine runs to its end. -/
theorem run_rules (registry : Registry) (junctions : List Text) (config : Config) :
    (Engine.ofRegistry registry junctions config config.rules).run [] =
      (registry.found (junctions.map Text.lower) config, none) := by
  have ran : ∀ found, addLinks [] found = firstOfEach Relationship.key [] found :=
    fun found => addLinks_eq [] found
  rw [Registry.found, ← ran]
  unfold Engine.run Engine.passes Registry.conventions
  cases asked : config.conventions <;>
    simp [Engine.ofRegistry, asked, Engine.runPasses, Engine.step, Engine.links,
      conventionLinks_rules, addLinks_append]

section Found

variable {registry : Registry} {junctions : List Text} {config : Config}

theorem mem_map_directLinks {key : LinkKey} :
    key ∈ (directLinks registry junctions).map Relationship.key ↔ registry.Declares junctions key := by
  simp only [List.mem_map, mem_directLinks]
  constructor
  · rintro ⟨link, ⟨declares, _⟩, rfl⟩
    exact declares
  · intro declares
    exact ⟨declaredLink registry key, ⟨declares, rfl⟩, rfl⟩

theorem mem_map_junctionLinksOf {mode : ManyToManyMode} {metadata : TableMetadata} {key : LinkKey} :
    key ∈ (junctionLinksOf mode metadata).map Relationship.key ↔ metadata.Joins mode key := by
  simp only [List.mem_map, mem_junctionLinksOf]
  constructor
  · rintro ⟨link, ⟨joins, _⟩, rfl⟩
    exact joins
  · intro joins
    exact ⟨joinedLink metadata key, ⟨joins, rfl⟩, rfl⟩

theorem mem_map_junctionLinks {mode : ManyToManyMode} {key : LinkKey} :
    key ∈ (junctionLinks registry junctions mode).map Relationship.key ↔
      registry.Joined junctions mode key := by
  rw [junctionLinks, List.map_flatMap, List.mem_flatMap]
  simp only [mem_map_junctionLinksOf, Registry.Joined]

theorem mem_map_conventions {key : LinkKey} :
    key ∈ (registry.conventions config).map Relationship.key ↔
      config.conventions = true ∧ registry.Suggests config key := by
  simp only [List.mem_map, mem_conventions]
  constructor
  · rintro ⟨link, ⟨asked, suggests, _⟩, rfl⟩
    exact ⟨asked, suggests⟩
  · rintro ⟨asked, suggests⟩
    exact ⟨suggestedLink registry key, ⟨asked, suggests, rfl⟩, rfl⟩

/-- The relationships that are found, pass by pass. -/
theorem found_eq (registry : Registry) (junctions : List Text) (config : Config) :
    registry.found junctions config =
      firstOfEach Relationship.key [] (directLinks registry junctions) ++
      (firstOfEach Relationship.key ((directLinks registry junctions).map Relationship.key)
        (junctionLinks registry junctions config.manyToMany) ++
      firstOfEach Relationship.key
        ((junctionLinks registry junctions config.manyToMany).map Relationship.key ++
          (directLinks registry junctions).map Relationship.key)
        (registry.conventions config)) := by
  rw [Registry.found, firstOfEach_append, firstOfEach_append, List.append_nil]

theorem mem_map_found {key : LinkKey} :
    key ∈ (registry.found junctions config).map Relationship.key ↔
      registry.Declares junctions key ∨ registry.Joined junctions config.manyToMany key ∨
        config.conventions = true ∧ registry.Suggests config key := by
  rw [Registry.found, mem_map_firstOfEach]
  simp only [List.map_append, List.mem_append, mem_map_directLinks, mem_map_junctionLinks,
    mem_map_conventions, List.not_mem_nil, not_false_eq_true, and_true]

variable {link : Relationship}

theorem direct_of_mem (member : link ∈ firstOfEach Relationship.key [] (directLinks registry junctions)) :
    registry.Declares junctions link.key ∧ link = declaredLink registry link.key :=
  mem_directLinks.mp (mem_of_mem_firstOfEach member)

theorem junction_of_mem
    (member : link ∈ firstOfEach Relationship.key ((directLinks registry junctions).map Relationship.key)
      (junctionLinks registry junctions config.manyToMany)) :
    ¬ registry.Declares junctions link.key ∧
      ∃ before metadata after, junctions.filterMap registry.get? = before ++ metadata :: after ∧
        metadata.Joins config.manyToMany link.key ∧
        (∀ earlier ∈ before, ¬ earlier.Joins config.manyToMany link.key) ∧
        link = joinedLink metadata link.key := by
  refine ⟨fun declares => ?_, ?_⟩
  · exact key_not_mem_of_mem_firstOfEach member (mem_map_directLinks.mpr declares)
  · obtain ⟨before, metadata, after, listed, inside, first⟩ := exists_of_mem_firstOfEach_flatMap member
    obtain ⟨joins, whole⟩ := mem_junctionLinksOf.mp inside
    refine ⟨before, metadata, after, listed, joins, fun earlier among joined => ?_, whole⟩
    exact first earlier among (mem_map_junctionLinksOf.mpr joined)

theorem convention_of_mem
    (member : link ∈ firstOfEach Relationship.key
      ((junctionLinks registry junctions config.manyToMany).map Relationship.key ++
        (directLinks registry junctions).map Relationship.key)
      (registry.conventions config)) :
    ¬ registry.Declares junctions link.key ∧ ¬ registry.Joined junctions config.manyToMany link.key ∧
      registry.Suggests config link.key ∧ link = suggestedLink registry link.key := by
  have free := key_not_mem_of_mem_firstOfEach member
  rw [List.mem_append, not_or, mem_map_directLinks, mem_map_junctionLinks] at free
  obtain ⟨_, suggests, whole⟩ := mem_conventions.mp (mem_of_mem_firstOfEach member)
  exact ⟨free.2, free.1, suggests, whole⟩

theorem origin_of_direct (member : link ∈ firstOfEach Relationship.key [] (directLinks registry junctions)) :
    link.origin = .direct := by
  rw [(direct_of_mem member).2]
  rfl

theorem origin_of_junction
    (member : link ∈ firstOfEach Relationship.key ((directLinks registry junctions).map Relationship.key)
      (junctionLinks registry junctions config.manyToMany)) : link.origin = .junction := by
  obtain ⟨_, _, metadata, _, _, _, _, whole⟩ := junction_of_mem member
  rw [whole]
  rfl

theorem origin_of_mem_conventions (member : link ∈ registry.conventions config) : link.origin = .convention := by
  rw [(mem_conventions.mp member).2.2]
  rfl

/-- A relationship comes from the first of the three sources that has its key. -/
theorem found_cases (member : link ∈ registry.found junctions config) :
    (registry.Declares junctions link.key ∧ link = declaredLink registry link.key) ∨
    (¬ registry.Declares junctions link.key ∧
      ∃ before metadata after, junctions.filterMap registry.get? = before ++ metadata :: after ∧
        metadata.Joins config.manyToMany link.key ∧
        (∀ earlier ∈ before, ¬ earlier.Joins config.manyToMany link.key) ∧
        link = joinedLink metadata link.key) ∨
    (¬ registry.Declares junctions link.key ∧ ¬ registry.Joined junctions config.manyToMany link.key ∧
      registry.Suggests config link.key ∧ link = suggestedLink registry link.key) := by
  rw [found_eq, List.mem_append, List.mem_append] at member
  exact member.imp direct_of_mem (Or.imp junction_of_mem convention_of_mem)

theorem pairwise_of_same_origin {links : List Relationship} {origin : Origin}
    (same : ∀ link ∈ links, link.origin = origin) :
    links.Pairwise fun left right => left.origin.turn ≤ right.origin.turn := by
  refine List.pairwise_of_forall_mem_list fun left leftIn right rightIn => ?_
  rw [same left leftIn, same right rightIn]

theorem pairwise_turn_found : (registry.found junctions config).Pairwise fun left right =>
    left.origin.turn ≤ right.origin.turn := by
  rw [found_eq]
  refine List.pairwise_append.mpr ⟨pairwise_of_same_origin fun _ => origin_of_direct,
    List.pairwise_append.mpr ⟨pairwise_of_same_origin fun _ => origin_of_junction,
      pairwise_of_same_origin fun _ member => origin_of_mem_conventions (mem_of_mem_firstOfEach member), ?_⟩, ?_⟩
  · intro left leftIn right rightIn
    rw [origin_of_junction leftIn, origin_of_mem_conventions (mem_of_mem_firstOfEach rightIn)]
    decide
  · intro left leftIn right _
    rw [origin_of_direct leftIn]
    exact Nat.zero_le _

theorem nodup_map_found : ((registry.found junctions config).map Relationship.key).Nodup :=
  nodup_map_firstOfEach

theorem mem_report_found :
    link ∈ Relationship.report (registry.found junctions config) ↔
      link ∈ registry.found junctions config :=
  (distinctSorted_perm_self nodup_map_found).mem_iff

theorem mem_map_report_found {key : LinkKey} :
    key ∈ (Relationship.report (registry.found junctions config)).map Relationship.key ↔
      key ∈ (registry.found junctions config).map Relationship.key := by
  simp only [List.mem_map, mem_report_found]

theorem inferred_report_found (registry : Registry) (junctions : List Text) (config : Config) :
    Inferred registry junctions config (Relationship.report (registry.found junctions config)) where
  distinct := nodup_map_distinctSorted
  complete key := mem_map_report_found.trans mem_map_found
  declared link member declares := by
    rcases found_cases (mem_report_found.mp member) with ⟨_, whole⟩ | ⟨other, _⟩ | ⟨other, _⟩
    · rw [whole]
      exact ⟨rfl, rfl, registry.cardinality_classifies link.source link.target⟩
    · exact absurd declares other
    · exact absurd declares other
  joined link member free joins := by
    rcases found_cases (mem_report_found.mp member) with
      ⟨declares, _⟩ | ⟨_, before, metadata, after, listed, here, first, whole⟩ | ⟨_, other, _⟩
    · exact absurd declares free
    · refine ⟨by rw [whole]; rfl, by rw [whole]; rfl, before, metadata, after, listed, here, first, ?_⟩
      rw [whole]
      rfl
    · exact absurd joins other
  suggested link member free unjoined := by
    rcases found_cases (mem_report_found.mp member) with
      ⟨declares, _⟩ | ⟨_, before, metadata, after, listed, here, _⟩ | ⟨_, _, _, whole⟩
    · exact absurd declares free
    · refine absurd ⟨metadata, ?_, here⟩ unjoined
      rw [listed]
      simp
    · rw [whole]
      exact ⟨rfl, rfl, registry.cardinality_classifies link.source link.target⟩
  ordered := pairwise_distinctSorted
  ties := by
    refine pairwise_ties_distinctSorted ?_
    rw [firstOfEach_eq_self nodup_map_found (by simp)]
    exact pairwise_turn_found

end Found

end Schemata
