import Schemata.Proofs.Inference.Distinct
import Schemata.Proofs.Inference.Sources
import Mathlib.Data.Finset.Union

/-!
An engine that is asked again and again. It keeps the relationships that it has found and the set of
their keys, and adds to both what a pass finds under new keys. So passes may come in any order and any
number of times: each finds what it finds the first time, and the keys in the end are those of all
passes that were asked for.
-/

namespace Schemata

/-- What an engine has found: the relationships, and the keys that new ones are checked against. -/
structure Findings where
  links : List Relationship := []
  keys : Finset LinkKey := ∅

namespace Findings

def add (findings : Findings) (link : Relationship) : Findings :=
  if link.key ∈ findings.keys then findings
  else ⟨findings.links ++ [link], insert link.key findings.keys⟩

def addAll (findings : Findings) (links : List Relationship) : Findings :=
  links.foldl add findings

/-- The relationships have distinct keys, and these are all the keys. -/
structure IsSound (findings : Findings) : Prop where
  distinct : (findings.links.map Relationship.key).Nodup
  keys : ∀ key, key ∈ findings.keys ↔ key ∈ findings.links.map Relationship.key

variable {findings : Findings}

theorem isSound_empty : IsSound {} :=
  ⟨List.nodup_nil, by simp⟩

theorem IsSound.add (sound : findings.IsSound) (link : Relationship) : (findings.add link).IsSound := by
  unfold Findings.add
  split
  · exact sound
  · rename_i free
    refine ⟨?_, fun key => ?_⟩
    · rw [List.map_append, List.map_singleton, ← List.concat_eq_append, List.nodup_concat]
      exact ⟨fun taken => free ((sound.keys _).mpr taken), sound.distinct⟩
    · simp [sound.keys, or_comm]

theorem IsSound.addAll (sound : findings.IsSound) (links : List Relationship) :
    (findings.addAll links).IsSound := by
  induction links generalizing findings with
  | nil => exact sound
  | cons link rest ih => exact ih (sound.add link)

theorem links_add (sound : findings.IsSound) (link : Relationship) :
    (findings.add link).links = addLinks findings.links [link] := by
  have present : (findings.links.any fun present => present.key == link.key) = true ↔
      link.key ∈ findings.keys := by
    simp [sound.keys]
  simp only [Findings.add, addLinks, List.foldl_cons, List.foldl_nil, present]
  split <;> rfl

theorem links_addAll (sound : findings.IsSound) (links : List Relationship) :
    (findings.addAll links).links = addLinks findings.links links := by
  induction links generalizing findings with
  | nil => rfl
  | cons link rest ih =>
      rw [← List.singleton_append, ← addLinks_append, ← links_add sound]
      exact ih (sound.add link)

theorem links_prefix_addAll (findings : Findings) (links : List Relationship) :
    findings.links <+: (findings.addAll links).links := by
  induction links generalizing findings with
  | nil => exact List.prefix_rfl
  | cons link rest ih =>
      refine List.IsPrefix.trans ?_ (ih (findings.add link))
      unfold Findings.add
      split
      · exact List.prefix_rfl
      · exact List.prefix_append ..

theorem keys_addAll (findings : Findings) (links : List Relationship) :
    (findings.addAll links).keys = findings.keys ∪ (links.map Relationship.key).toFinset := by
  induction links generalizing findings with
  | nil => simp [addAll]
  | cons link rest ih =>
      have step : (findings.add link).keys = insert link.key findings.keys := by
        unfold Findings.add
        split
        · rename_i present
          exact (Finset.insert_eq_of_mem present).symm
        · rfl
      refine (ih (findings.add link)).trans ?_
      rw [step, List.map_cons, List.toFinset_cons, Finset.insert_union, Finset.union_insert]

theorem addAll_of_known {links : List Relationship} (known : ∀ link ∈ links, link.key ∈ findings.keys) :
    findings.addAll links = findings := by
  induction links with
  | nil => rfl
  | cons link rest ih =>
      rw [List.forall_mem_cons] at known
      have same : findings.add link = findings := if_pos known.1
      rw [addAll, List.foldl_cons, same]
      exact ih known.2

theorem addAll_append (findings : Findings) (first second : List Relationship) :
    (findings.addAll first).addAll second = findings.addAll (first ++ second) :=
  List.foldl_append.symm

end Findings

namespace Engine

/-- What an engine is asked for: one pass, or all that the options call for. -/
inductive Request
  | pass (pass : Pass)
  | infer
deriving DecidableEq, Repr

variable (engine : Engine)

def passesOf : Request → List Pass
  | .pass pass => [pass]
  | .infer => engine.passes

/-- Enters what a pass finds, up to a breakdown. -/
def enter (findings : Findings) (pass : Pass) : Findings × Option Ddl.Fault :=
  let (links, fault) := engine.links pass
  (findings.addAll links, fault)

def enterAll (findings : Findings) : List Pass → Findings × Option Ddl.Fault
  | [] => (findings, none)
  | pass :: rest =>
      match engine.enter findings pass with
      | (findings, none) => enterAll findings rest
      | (findings, some fault) => (findings, some fault)

def serve (findings : Findings) : Request → Findings × Option Ddl.Fault
  | .pass pass => engine.enter findings pass
  | .infer => engine.enterAll findings engine.passes

/-- The same on the relationships alone. -/
def answer (found : List Relationship) : Request → List Relationship × Option Ddl.Fault
  | .pass pass => engine.step found pass
  | .infer => engine.run found

/-- What an engine has found after a series of requests. A request that breaks down keeps what it has
found by then. -/
def after (findings : Findings) (requests : List Request) : Findings :=
  requests.foldl (fun findings request => (engine.serve findings request).1) findings

/-- What passes find, were each the only one. -/
def linksOf (passes : List Pass) : List Relationship :=
  passes.flatMap fun pass => (engine.links pass).1

variable {findings : Findings}

theorem enter_answers (sound : findings.IsSound) (pass : Pass) :
    ((engine.enter findings pass).1.links, (engine.enter findings pass).2) =
      engine.step findings.links pass :=
  Prod.ext (findings.links_addAll sound (engine.links pass).1) rfl

theorem enterAll_answers (sound : findings.IsSound) (passes : List Pass) :
    ((engine.enterAll findings passes).1.links, (engine.enterAll findings passes).2) =
      engine.runPasses findings.links passes := by
  induction passes generalizing findings with
  | nil => rfl
  | cons pass rest ih =>
      have here := engine.enter_answers sound pass
      have kept : (engine.enter findings pass).1.IsSound := sound.addAll _
      unfold enterAll runPasses
      rw [← here]
      cases entered : engine.enter findings pass with
      | mk next fault =>
          rw [entered] at kept
          cases fault with
          | none => exact ih kept
          | some fault => rfl

theorem serve_answers (sound : findings.IsSound) (request : Request) :
    ((engine.serve findings request).1.links, (engine.serve findings request).2) =
      engine.answer findings.links request := by
  cases request with
  | pass pass => exact engine.enter_answers sound pass
  | infer => exact engine.enterAll_answers sound engine.passes

/-- Where only the last of the passes can break down, none is left out. -/
theorem enterAll_eq {before : List Pass} (whole : ∀ pass ∈ before, (engine.links pass).2 = none)
    (last : Pass) (findings : Findings) :
    (engine.enterAll findings (before ++ [last])).1 =
      findings.addAll (engine.linksOf (before ++ [last])) := by
  induction before generalizing findings with
  | nil =>
      have found : engine.linksOf [last] = (engine.links last).1 := List.append_nil _
      rw [List.nil_append, found, enterAll]
      cases fault : (engine.links last).2 <;> simp [enter, enterAll, fault]
  | cons pass rest ih =>
      rw [List.forall_mem_cons] at whole
      have entered : engine.enter findings pass = (findings.addAll (engine.links pass).1, none) :=
        Prod.ext rfl whole.1
      rw [List.cons_append, enterAll, entered]
      dsimp only
      rw [ih whole.2, Findings.addAll_append]
      rfl

theorem serve_eq (findings : Findings) (request : Request) :
    (engine.serve findings request).1 = findings.addAll (engine.linksOf (engine.passesOf request)) := by
  cases request with
  | pass pass => exact congrArg findings.addAll (List.append_nil _).symm
  | infer =>
      rw [serve, passesOf, passes]
      have direct : (engine.links .direct).2 = none := rfl
      have junctions : (engine.links .junctions).2 = none := rfl
      cases engine.config.conventions
      · exact engine.enterAll_eq (List.forall_mem_singleton.mpr direct) .junctions findings
      · exact engine.enterAll_eq (List.forall_mem_cons.mpr ⟨direct, List.forall_mem_singleton.mpr junctions⟩)
          .conventions findings

theorem after_eq (findings : Findings) (requests : List Request) :
    engine.after findings requests =
      findings.addAll (engine.linksOf (requests.flatMap engine.passesOf)) := by
  induction requests generalizing findings with
  | nil => rfl
  | cons request rest ih =>
      refine (ih (engine.serve findings request).1).trans ?_
      rw [serve_eq, Findings.addAll_append]
      simp only [linksOf, List.flatMap_cons, List.flatMap_append]

theorem links_after (requests : List Request) :
    (engine.after {} requests).links =
      requests.foldl (fun found request => (engine.answer found request).1) [] := by
  suffices general : ∀ findings : Findings, findings.IsSound → (engine.after findings requests).links =
      requests.foldl (fun found request => (engine.answer found request).1) findings.links from
    general {} Findings.isSound_empty
  induction requests with
  | nil => exact fun _ _ => rfl
  | cons request rest ih =>
      intro findings sound
      have here := congrArg Prod.fst (engine.serve_answers sound request)
      have kept : (engine.serve findings request).1.IsSound := by
        rw [serve_eq]
        exact sound.addAll _
      rw [List.foldl_cons, ← here]
      exact ih _ kept

theorem mem_keys_after {requests : List Request} {key : LinkKey} :
    key ∈ (engine.after {} requests).keys ↔
      ∃ pass ∈ requests.flatMap engine.passesOf, key ∈ (engine.links pass).1.map Relationship.key := by
  rw [after_eq, Findings.keys_addAll]
  simp only [linksOf, Finset.empty_union, List.mem_toFinset, List.map_flatMap, List.mem_flatMap]

/-- An engine that goes on. Whatever it is asked for, its relationships have distinct keys, which are the
keys of its set; it only appends; passes that have run append nothing when they run again; and the keys
are those of the passes that have run, in whatever order and however often. -/
theorem after_findings (requests : List Request) :
    let findings := engine.after {} requests
    findings.links = requests.foldl (fun found request => (engine.answer found request).1) [] ∧
      (findings.links.map Relationship.key).Nodup ∧
      (∀ key, key ∈ findings.keys ↔ key ∈ findings.links.map Relationship.key) ∧
      (∀ request, findings.links <+: (engine.serve findings request).1.links) ∧
      (∀ request, engine.passesOf request ⊆ requests.flatMap engine.passesOf →
        (engine.serve findings request).1 = findings) ∧
      (∀ key, key ∈ findings.keys ↔
        ∃ pass ∈ requests.flatMap engine.passesOf, key ∈ (engine.links pass).1.map Relationship.key) ∧
      ∀ others, (∀ pass, pass ∈ others.flatMap engine.passesOf ↔ pass ∈ requests.flatMap engine.passesOf) →
        (engine.after {} others).keys = findings.keys := by
  intro findings
  have sound : findings.IsSound := by
    rw [show findings = _ from engine.after_eq {} requests]
    exact Findings.isSound_empty.addAll _
  refine ⟨engine.links_after requests, sound.distinct, sound.keys, fun request => ?_, fun request ran => ?_,
    fun key => engine.mem_keys_after, fun others same => ?_⟩
  · rw [serve_eq]
    exact findings.links_prefix_addAll _
  · rw [serve_eq]
    refine Findings.addAll_of_known fun link member => ?_
    obtain ⟨pass, asked, found⟩ := List.mem_flatMap.mp member
    exact engine.mem_keys_after.mpr ⟨pass, ran asked, List.mem_map_of_mem found⟩
  · ext key
    simp only [findings, mem_keys_after, same]

/-- A column that is called after a table. -/
def visitsEngine : Engine :=
  let users : TableMetadata := { table := ⟨"users".toList, [{ name := "id".toList, dataType := "INT".toList }]⟩ }
  let visits : TableMetadata :=
    { table := ⟨"visits".toList, [{ name := "user_id".toList, dataType := "INT".toList }]⟩ }
  Engine.ofRegistry ⟨[users, visits]⟩ [] {} (Config.rules {})

theorem after_findings_visits :
    let findings := visitsEngine.after {} [.pass .conventions, .infer]
    findings.links.length = 1 ∧
    (visitsEngine.serve findings (.pass .conventions)).1 = findings ∧
      (visitsEngine.after {} [.infer, .infer, .pass .direct]).keys = findings.keys := by
  obtain ⟨links, _, _, _, again, _, ordered⟩ := visitsEngine.after_findings [.pass .conventions, .infer]
  refine ⟨?_, again (.pass .conventions) (by decide), ordered _ fun pass => ?_⟩
  · rw [links]
    decide +kernel
  · cases pass <;> decide

end Engine

end Schemata
