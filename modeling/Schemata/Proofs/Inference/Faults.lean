import Schemata.Proofs.Inference.Engine

/-!
Rules that break down. Where a question about a column has no answer, the detection of junction tables
gives nothing, and the pass over the names of columns gives what the columns before it suggest.
-/

namespace Schemata

open Ddl (Fault collect)

section FilterM

variable {α : Type} {test : α → Except Fault Bool} {list : List α}

/-- Either every element is decided, or the first fault is the result. -/
theorem filterM_cases (test : α → Except Fault Bool) (list : List α) :
    (∃ kept, list.filterM test = .ok kept ∧ ∀ a ∈ list, ∃ fits, test a = .ok fits) ∨
      ∃ fault, list.filterM test = .error fault ∧ ∃ a ∈ list, test a = .error fault := by
  suffices general : ∀ kept : List α,
      (∃ final, List.filterAuxM test list kept = .ok final ∧ ∀ a ∈ list, ∃ fits, test a = .ok fits) ∨
        ∃ fault, List.filterAuxM test list kept = .error fault ∧ ∃ a ∈ list, test a = .error fault by
    rcases general [] with ⟨final, filtered, decided⟩ | ⟨fault, filtered, broken⟩
    · exact .inl ⟨final.reverse, by simp [List.filterM, filtered, bind, Except.bind, pure, Except.pure], decided⟩
    · exact .inr ⟨fault, by simp [List.filterM, filtered, bind, Except.bind], broken⟩
  induction list with
  | nil => exact fun kept => .inl ⟨kept, rfl, by simp⟩
  | cons a rest ih =>
      intro kept
      cases decided : test a with
      | error fault =>
          refine .inr ⟨fault, ?_, a, List.mem_cons_self .., decided⟩
          rw [List.filterAuxM, decided]
          rfl
      | ok fits =>
          have step : List.filterAuxM test (a :: rest) kept =
              List.filterAuxM test rest (cond fits (a :: kept) kept) := by
            rw [List.filterAuxM, decided]
            rfl
          rw [step]
          rcases ih (cond fits (a :: kept) kept) with ⟨final, filtered, others⟩ | ⟨fault, filtered, b, inside, broken⟩
          · exact .inl ⟨final, filtered, List.forall_mem_cons.mpr ⟨⟨fits, decided⟩, others⟩⟩
          · exact .inr ⟨fault, filtered, b, List.mem_cons_of_mem a inside, broken⟩

end FilterM

/-- The columns of a table about which the detection of junction tables asks: those outside the foreign
keys of a table with two of them that make up its primary key. -/
def TableMetadata.audited (metadata : TableMetadata) : List Column :=
  if metadata.foreignKeys.length = 2 ∧ keysFormPrimaryKey metadata = true then
    metadata.table.columns.filter fun column =>
      !(metadata.foreignKeys.flatMap Constraint.columns).contains column.name
  else []

variable {rules : Rules} {config : Config} {registry : Registry}

/-- Of the tables that the detection asks about, those with few other columns are junction tables. -/
theorem isJunction_of_keyed (rules : Rules) (maxExtra : Int) {metadata : TableMetadata}
    (keyed : metadata.foreignKeys.length = 2 ∧ keysFormPrimaryKey metadata = true) :
    isJunction rules maxExtra metadata =
      (metadata.audited.filterM fun column => (rules.isAuditColumn column.name).map not).map
        fun extra => decide ((extra.length : Int) ≤ maxExtra) := by
  have asked : ∀ column : Column,
      (do return !(← rules.isAuditColumn column.name) : Except Fault Bool) =
        (rules.isAuditColumn column.name).map not := by
    intro column
    cases rules.isAuditColumn column.name <;> rfl
  unfold isJunction TableMetadata.audited
  rw [if_pos keyed, if_neg (not_not.mpr keyed.1), if_neg (by simp [keyed.2])]
  simp only [asked]
  rfl

theorem isJunction_of_other (rules : Rules) (maxExtra : Int) {metadata : TableMetadata}
    (other : ¬ (metadata.foreignKeys.length = 2 ∧ keysFormPrimaryKey metadata = true)) :
    isJunction rules maxExtra metadata = .ok false := by
  unfold isJunction
  by_cases two : metadata.foreignKeys.length = 2
  · have unkeyed : keysFormPrimaryKey metadata = false := by simpa [two] using other
    rw [if_neg (not_not.mpr two), unkeyed]
    rfl
  · rw [if_pos two]
    rfl

theorem isJunction_cases (rules : Rules) (maxExtra : Int) (metadata : TableMetadata) :
    (∃ junction, isJunction rules maxExtra metadata = .ok junction ∧
      ∀ column ∈ metadata.audited, ∃ audit, rules.isAuditColumn column.name = .ok audit) ∨
    ∃ fault, isJunction rules maxExtra metadata = .error fault ∧
      ∃ column ∈ metadata.audited, rules.isAuditColumn column.name = .error fault := by
  by_cases keyed : metadata.foreignKeys.length = 2 ∧ keysFormPrimaryKey metadata = true
  · rw [isJunction_of_keyed rules maxExtra keyed]
    rcases filterM_cases (fun column : Column => (rules.isAuditColumn column.name).map not)
        metadata.audited with
      ⟨extra, filtered, decided⟩ | ⟨fault, filtered, column, inside, broken⟩
    · refine .inl ⟨_, by rw [filtered]; rfl, fun column inside => ?_⟩
      obtain ⟨fits, answer⟩ := decided column inside
      cases audit : rules.isAuditColumn column.name with
      | ok value => exact ⟨value, rfl⟩
      | error fault =>
          rw [audit] at answer
          cases answer
    · refine .inr ⟨fault, by rw [filtered]; rfl, column, inside, ?_⟩
      cases audit : rules.isAuditColumn column.name with
      | ok value =>
          rw [audit] at broken
          cases broken
      | error other =>
          rw [audit] at broken
          cases broken
          rfl
  · exact .inl ⟨false, isJunction_of_other rules maxExtra keyed,
      by simp [TableMetadata.audited, keyed]⟩

/-- The detection of junction tables breaks down exactly if it asks about a column without an answer. -/
theorem junctionTables_cases (rules : Rules) (maxExtra : Int) (registry : Registry) :
    (∃ junctions, junctionTables rules maxExtra registry = .ok junctions ∧
      ∀ metadata ∈ registry.tables, ∀ column ∈ metadata.audited,
        ∃ audit, rules.isAuditColumn column.name = .ok audit) ∨
    ∃ fault, junctionTables rules maxExtra registry = .error fault ∧
      ∃ metadata ∈ registry.tables, ∃ column ∈ metadata.audited,
        rules.isAuditColumn column.name = .error fault := by
  unfold junctionTables
  rcases filterM_cases (isJunction rules maxExtra) registry.tables with
    ⟨found, filtered, decided⟩ | ⟨fault, filtered, metadata, registered, broken⟩
  · refine .inl ⟨_, by rw [filtered]; rfl, fun metadata registered => ?_⟩
    obtain ⟨fits, junction⟩ := decided metadata registered
    rcases isJunction_cases rules maxExtra metadata with ⟨_, _, answers⟩ | ⟨fault, broken, _⟩
    · exact answers
    · rw [broken] at junction
      cases junction
  · refine .inr ⟨fault, by rw [filtered]; rfl, metadata, registered, ?_⟩
    rcases isJunction_cases rules maxExtra metadata with ⟨_, junction, _⟩ | ⟨other, same, asked⟩
    · rw [broken] at junction
      cases junction
    · rw [broken] at same
      cases same
      exact asked

/-- The rules name the candidates that the options name, or break down. -/
def Rules.FollowsNames (rules : Rules) (config : Config) : Prop :=
  ∀ stem, rules.candidateTables stem = .ok (config.candidateTables stem) ∨
    ∃ fault, rules.candidateTables stem = .error fault

/-- The pass over the names of columns asks for the candidates of the stem. -/
def Registry.AsksFor (registry : Registry) (stem : Text) : Prop :=
  ∃ place ∈ registry.columns, place.2.foreignKey = none ∧ idStem place.2.name = some stem

theorem conventionLinksOf_cases (follows : rules.FollowsNames config) (registry : Registry)
    (place : TableMetadata × Column) :
    (conventionLinksOf rules registry config.targetColumn place =
        .ok (suggestedLinks registry config place) ∧
      ∀ stem, place.2.foreignKey = none → idStem place.2.name = some stem →
        rules.candidateTables stem = .ok (config.candidateTables stem)) ∨
    ∃ fault stem, conventionLinksOf rules registry config.targetColumn place = .error fault ∧
      place.2.foreignKey = none ∧ idStem place.2.name = some stem ∧
      rules.candidateTables stem = .error fault := by
  obtain ⟨metadata, column⟩ := place
  unfold conventionLinksOf suggestedLinks
  dsimp only
  cases refers : column.foreignKey with
  | some reference => exact .inl ⟨by simp [pure, Except.pure], by simp⟩
  | none =>
      cases stemmed : idStem column.name with
      | none => exact .inl ⟨by simp [pure, Except.pure], by simp⟩
      | some stem =>
          rcases follows stem with named | ⟨fault, broken⟩
          · refine .inl ⟨?_, ?_⟩
            · simp [named, bind, Except.bind, pure, Except.pure]
            · rintro other - same
              rwa [← Option.some_inj.mp same]
          · exact .inr ⟨fault, stem, by simp [broken, bind, Except.bind], rfl, rfl, broken⟩

theorem collect_cases {α β : Type} {read : α → Except Fault β} {value : α → β}
    (agrees : ∀ a, read a = .ok (value a) ∨ ∃ fault, read a = .error fault) (list : List α) :
    (collect read list = (list.map value, none) ∧ ∀ a ∈ list, read a = .ok (value a)) ∨
    ∃ before a after fault, list = before ++ a :: after ∧ read a = .error fault ∧
      collect read list = (before.map value, some fault) := by
  induction list with
  | nil => exact .inl ⟨rfl, by simp⟩
  | cons a rest ih =>
      rcases agrees a with here | ⟨fault, broken⟩
      · rcases ih with ⟨collected, others⟩ | ⟨before, b, after, fault, rfl, broken, collected⟩
        · exact .inl ⟨by simp [collect, here, collected], List.forall_mem_cons.mpr ⟨here, others⟩⟩
        · exact .inr ⟨a :: before, b, after, fault, rfl, broken, by simp [collect, here, collected]⟩
      · exact .inr ⟨[], a, rest, fault, rfl, broken, by simp [collect, broken]⟩

/-- Where rules break down in the pass over the names of columns, it has found what the columns before suggest. -/
theorem conventionLinks_of_broken (follows : rules.FollowsNames config)
    (broken : ∃ stem fault, registry.AsksFor stem ∧ rules.candidateTables stem = .error fault) :
    ∃ before after fault, registry.columns = before ++ after ∧
      conventionLinks rules registry config.targetColumn =
        (before.flatMap (suggestedLinks registry config), some fault) ∧
      ∃ stem, registry.AsksFor stem ∧ rules.candidateTables stem = .error fault := by
  have agrees : ∀ place, conventionLinksOf rules registry config.targetColumn place =
        .ok (suggestedLinks registry config place) ∨
      ∃ fault, conventionLinksOf rules registry config.targetColumn place = .error fault := fun place =>
    (conventionLinksOf_cases follows registry place).imp And.left fun ⟨fault, _, refused, _⟩ => ⟨fault, refused⟩
  rcases collect_cases agrees registry.columns with ⟨_, whole⟩ | ⟨before, place, after, fault, columns, refused, collected⟩
  · -- A column that asks for the stem is one at which the pass stops.
    obtain ⟨stem, fault, ⟨place, listed, free, stemmed⟩, unnamed⟩ := broken
    rcases conventionLinksOf_cases follows registry place with ⟨_, named⟩ | ⟨_, _, refused, _⟩
    · rw [named stem free stemmed] at unnamed
      cases unnamed
    · rw [whole place listed] at refused
      cases refused
  · refine ⟨before, place :: after, fault, columns, ?_, ?_⟩
    · unfold conventionLinks
      dsimp only
      rw [show (registry.tables.flatMap fun metadata => metadata.table.columns.map fun column =>
        (metadata, column)) = registry.columns from rfl, collected]
      rfl
    · rcases conventionLinksOf_cases follows registry place with ⟨named, _⟩ | ⟨other, stem, same, free, stemmed, unnamed⟩
      · rw [refused] at named
        cases named
      · rw [refused] at same
        cases same
        exact ⟨stem, ⟨place, by simp [columns], free, stemmed⟩, unnamed⟩

/-- Where rules break down in the pass over the names of columns, the engine has found a beginning of
what it finds under plain options, and only relationships by convention are missing. -/
theorem run_of_brokenNames (follows : rules.FollowsNames config) (asked : config.conventions = true)
    (broken : ∃ stem fault, registry.AsksFor stem ∧ rules.candidateTables stem = .error fault)
    (junctions : List Text) :
    ∃ found later fault, (Engine.ofRegistry registry junctions config rules).run [] = (found, some fault) ∧
      registry.found (junctions.map Text.lower) config = found ++ later ∧
      (∀ link ∈ later, link.origin = .convention) ∧
      ∃ stem, registry.AsksFor stem ∧ rules.candidateTables stem = .error fault := by
  obtain ⟨before, after, fault, columns, partly, cause⟩ := conventionLinks_of_broken follows broken
  let direct := directLinks registry (junctions.map Text.lower)
  let joined := junctionLinks registry (junctions.map Text.lower) config.manyToMany
  let early := before.flatMap (suggestedLinks registry config)
  let late := after.flatMap (suggestedLinks registry config)
  have conventions : registry.conventions config = early ++ late := by
    rw [Registry.conventions, if_pos asked, columns, List.flatMap_append]
  refine ⟨firstOfEach Relationship.key [] (direct ++ (joined ++ early)),
    firstOfEach Relationship.key ((direct ++ (joined ++ early)).map Relationship.key ++ []) late, fault,
    ?_, ?_, fun link member => ?_, cause⟩
  · have ran : ∀ links, addLinks [] links = firstOfEach Relationship.key [] links :=
      fun links => addLinks_eq [] links
    rw [← ran]
    simp [Engine.run, Engine.passes, Engine.ofRegistry, asked, Engine.runPasses, Engine.step,
      Engine.links, partly, addLinks_append, direct, joined, early]
  · rw [Registry.found, conventions, ← firstOfEach_append]
    simp only [List.append_assoc, direct, joined]
  · have listed : link ∈ registry.conventions config := by
      rw [conventions]
      exact List.mem_append_right early (mem_of_mem_firstOfEach member)
    exact origin_of_mem_conventions listed

end Schemata
