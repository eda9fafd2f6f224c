import Schemata.Document.Stored
import Schemata.Proofs.Inference.Distinct
import Schemata.Proofs.Outcomes

/-!
What a report lists, said without sorting: the first element of each key, by rank and name, and those
of one rank and name as their keys come up. That settles the report, so it does not change when it is
reported again, and the order of the elements counts for ties only. It holds of the relationships that
the inference finds and of those that documents hold.
-/

namespace Schemata

namespace SortKey

theorem le_iff {left right : SortKey} :
    left.le right = true ↔
      left.1 < right.1 ∨ left.1 = right.1 ∧ (left.2 = right.2 ∨ Text.Precedes left.2 right.2) := by
  simp only [SortKey.le, Bool.or_eq_true, decide_eq_true_eq, Bool.and_eq_true, beq_iff_eq, Text.le_iff]

theorem le_antisymm {left right : SortKey} (lower : left.le right = true) (upper : right.le left = true) :
    left = right := by
  simp only [SortKey.le, Bool.or_eq_true, decide_eq_true_eq, Bool.and_eq_true, beq_iff_eq] at lower upper
  rcases lower with below | ⟨same, names⟩
  · omega
  · rcases upper with above | ⟨_, others⟩
    · omega
    · exact Prod.ext same (Text.le_antisymm names others)

end SortKey

section Reports

variable {ρ κ : Type} [BEq κ]

/-- A report of a list: the first element of each key, by rank and then by the code points of the name.
Elements of one rank and name stand in it as their keys come up in the list. -/
structure IsReport (key : ρ → κ) (sortKey : ρ → SortKey) (list report : List ρ) : Prop where
  distinct : (report.map key).Nodup
  first : ∀ r, r ∈ report ↔ list.find? (fun other => key other == key r) = some r
  ordered : report.Pairwise fun left right =>
    (sortKey left).1 < (sortKey right).1 ∨ (sortKey left).1 = (sortKey right).1 ∧
      ((sortKey left).2 = (sortKey right).2 ∨ Text.Precedes (sortKey left).2 (sortKey right).2)
  stable : report.Pairwise fun left right => sortKey left = sortKey right →
    (list.map key).idxOf (key left) < (list.map key).idxOf (key right)

/-- The laws of reporting. There is one report of a list, and it is its own report; of distinct elements,
fewer are reported as they are among more, and the order of those with distinct sort keys does not count. -/
structure Reports (key : ρ → κ) (sortKey : ρ → SortKey) (report : List ρ → List ρ) : Prop where
  one : ∀ list listed, IsReport key sortKey list listed ↔ listed = report list
  again : ∀ list, report (report list) = report list
  fewer : ∀ {fewer more : List ρ}, fewer.Sublist more → (more.map key).Nodup →
    (report fewer).Sublist (report more)
  reordered : ∀ {list other : List ρ}, list.Perm other → (list.map key).Nodup → (list.map sortKey).Nodup →
    report list = report other

/-- Both rank and name agree only in one way, so a list with these properties is the only one. -/
theorem IsReport.unique {key : ρ → κ} {sortKey : ρ → SortKey} {list one other : List ρ}
    (report : IsReport key sortKey list one) (another : IsReport key sortKey list other) : one = other := by
  have same : one.Perm other := by
    refine (List.perm_ext_iff_of_nodup report.distinct.of_map another.distinct.of_map).mpr fun r => ?_
    rw [report.first, another.first]
  refine List.Perm.eq_of_pairwise (fun left right _ _ before after => ?_)
    (report.ordered.and report.stable) (another.ordered.and another.stable) same
  have tie : sortKey left = sortKey right :=
    SortKey.le_antisymm (SortKey.le_iff.mpr before.1) (SortKey.le_iff.mpr after.1)
  exact absurd (before.2 tie) (Nat.lt_asymm (after.2 tie.symm))

variable [LawfulBEq κ] {key : ρ → κ} {sortKey : ρ → SortKey} {list : List ρ}

/-- What is kept of a list stands in the order in which its keys come up. -/
theorem pairwise_idxOf_firstOfEach {seen : List κ} :
    (firstOfEach key seen list).Pairwise fun left right =>
      (list.map key).idxOf (key left) < (list.map key).idxOf (key right) := by
  induction list generalizing seen with
  | nil => exact .nil
  | cons r rest ih =>
      -- What is kept of the rest has another key than the first element.
      have later : ∀ {taken : List κ}, key r ∈ taken → ∀ s ∈ firstOfEach key taken rest,
          ((r :: rest).map key).idxOf (key s) = (rest.map key).idxOf (key s) + 1 := by
        intro taken member s kept
        have other : key r ≠ key s := fun same =>
          key_not_mem_of_mem_firstOfEach kept (same ▸ member)
        exact List.idxOf_cons_ne _ other
      have shifted : ∀ {taken : List κ}, key r ∈ taken →
          (firstOfEach key taken rest).Pairwise fun left right =>
            ((r :: rest).map key).idxOf (key left) < ((r :: rest).map key).idxOf (key right) := by
        intro taken member
        refine (@ih taken).imp_of_mem fun leftIn rightIn before => ?_
        rw [later member _ leftIn, later member _ rightIn]
        exact Nat.succ_lt_succ before
      unfold firstOfEach
      split
      · rename_i taken
        exact shifted (by simpa using taken)
      · refine List.pairwise_cons.mpr ⟨fun s kept => ?_, shifted (List.mem_cons_self ..)⟩
        rw [later (List.mem_cons_self ..) s kept, List.map_cons, List.idxOf_cons_self]
        exact Nat.succ_pos _

theorem isReport_distinctSorted : IsReport key sortKey list (distinctSorted key sortKey list) where
  distinct := nodup_map_distinctSorted
  first _ := mem_distinctSorted.trans mem_firstOfEach_iff
  ordered := by
    have sorted : (distinctSorted key sortKey list).Pairwise fun left right =>
        (sortKey left).le (sortKey right) = true := pairwise_distinctSorted
    exact sorted.imp SortKey.le_iff.mp
  stable := pairwise_ties_distinctSorted pairwise_idxOf_firstOfEach

theorem distinctSorted_distinctSorted :
    distinctSorted key sortKey (distinctSorted key sortKey list) = distinctSorted key sortKey list := by
  rw [distinctSorted, firstOfEach_eq_self nodup_map_distinctSorted (by simp)]
  exact List.mergeSort_of_pairwise pairwise_distinctSorted

theorem distinctSorted_eq_of_perm {other : List ρ} (perm : list.Perm other) (distinct : (list.map key).Nodup)
    (apart : (list.map sortKey).Nodup) : distinctSorted key sortKey list = distinctSorted key sortKey other := by
  have listed : (distinctSorted key sortKey list).Perm list := distinctSorted_perm_self distinct
  have same : (distinctSorted key sortKey list).Perm (distinctSorted key sortKey other) :=
    listed.trans (perm.trans (distinctSorted_perm_self ((perm.map key).nodup distinct)).symm)
  refine List.Perm.eq_of_pairwise (fun left right leftIn rightIn before after => ?_)
    pairwise_distinctSorted pairwise_distinctSorted same
  exact List.inj_on_of_nodup_map apart (listed.mem_iff.mp leftIn)
    (listed.mem_iff.mp (same.mem_iff.mpr rightIn)) (SortKey.le_antisymm before after)

theorem reports_distinctSorted (key : ρ → κ) (sortKey : ρ → SortKey) :
    Reports key sortKey (distinctSorted key sortKey) where
  one _ _ := ⟨fun reported => reported.unique isReport_distinctSorted,
    fun same => same ▸ isReport_distinctSorted⟩
  again _ := distinctSorted_distinctSorted
  fewer := distinctSorted_sublist
  reordered := distinctSorted_eq_of_perm

end Reports

/-- Keys that tell the same elements apart keep the same elements. -/
theorem firstOfEach_congr_key {ρ κ μ : Type} [BEq κ] [BEq μ] {key : ρ → κ} {other : ρ → μ}
    {fits : ρ → Prop} (same : ∀ {r s}, fits r → fits s → (key r == key s) = (other r == other s))
    {taken list : List ρ} (before : ∀ r ∈ taken, fits r) (listed : ∀ r ∈ list, fits r) :
    firstOfEach key (taken.map key) list = firstOfEach other (taken.map other) list := by
  induction list generalizing taken with
  | nil => rfl
  | cons r rest ih =>
      rw [List.forall_mem_cons] at listed
      have present : (taken.map key).contains (key r) = (taken.map other).contains (other r) := by
        rw [Bool.eq_iff_iff]
        simp only [List.contains_iff_exists_mem_beq, List.mem_map, exists_exists_and_eq_and]
        exact exists_congr fun s => and_congr_right fun member => by
          rw [same listed.1 (before s member)]
      have further : ∀ s ∈ r :: taken, fits s := List.forall_mem_cons.mpr ⟨listed.1, before⟩
      simp only [firstOfEach, present]
      split
      · exact ih before listed.2
      · exact congrArg (r :: ·) (ih further listed.2)

namespace Stored

/-- What a reference names, where both names are texts. -/
def Reference.plain (reference : Reference) : ColumnReference :=
  ⟨reference.table.plainText, reference.column.plainText⟩

namespace Relationship

/-- The endpoints are named by texts; whatever else the relationship holds. -/
def IsNamed (link : Stored.Relationship) : Prop :=
  ∃ source target : ColumnReference, link.source = source.stored ∧ link.target = target.stored

def endpoints (link : Stored.Relationship) : ColumnReference × ColumnReference :=
  (link.source.plain, link.target.plain)

theorem key_beq {one other : Stored.Relationship} (named : one.IsNamed) (otherNamed : other.IsNamed) :
    (one.key == other.key) = (one.endpoints == other.endpoints) := by
  obtain ⟨⟨a, b⟩, ⟨c, d⟩, source, target⟩ := named
  obtain ⟨⟨a', b'⟩, ⟨c', d'⟩, otherSource, otherTarget⟩ := otherNamed
  have names : (one.key == other.key) = (a == a' && (b == b' && (c == c' && (d == d' && true)))) := by
    rw [key, key, source, target, otherSource, otherTarget]
    rfl
  have ends : one.endpoints = (⟨a, b⟩, ⟨c, d⟩) := by
    rw [endpoints, source, target]
    rfl
  have otherEnds : other.endpoints = (⟨a', b'⟩, ⟨c', d'⟩) := by
    rw [endpoints, otherSource, otherTarget]
    rfl
  rw [names, ends, otherEnds, Bool.eq_iff_iff]
  simp only [Bool.and_eq_true, beq_iff_eq, and_true, Prod.mk.injEq, ColumnReference.mk.injEq, and_assoc]

theorem report_of_isNamed {links : List Stored.Relationship} (named : ∀ link ∈ links, link.IsNamed) :
    report links = .ok (distinctSorted endpoints sortKey links) := by
  have checked : links.forM checkNames = .ok () := by
    refine forM_eq_ok fun link member => ?_
    obtain ⟨source, target, sourceNamed, targetNamed⟩ := named link member
    rw [checkNames, key, sourceNamed, targetNamed]
    rfl
  have kept : firstOfEach key (List.map key []) links = firstOfEach endpoints (List.map endpoints []) links :=
    firstOfEach_congr_key key_beq (by simp) named
  rw [List.map_nil, List.map_nil] at kept
  rw [report, checked, distinctSorted, kept]
  rfl

end Relationship

end Stored

/-- Relationships are reported by the laws, and so are those of a document whose endpoints are named: the
first of each pair of endpoints, by cardinality and then by the written form of the source. Texts stand by their
code points, where the private characters that stand for halves of surrogate pairs count as these. -/
theorem Relationship.reports_report :
    let ranks : List Cardinality := [.oneToOne, .oneToMany, .manyToOne, .manyToMany]
    Reports (fun link : Relationship => (link.source, link.target))
        (fun link => (ranks.idxOf link.cardinality, link.source.table ++ '.' :: link.source.column))
        Relationship.report ∧
      ∃ plainReport,
        Reports (fun link : Stored.Relationship => (link.source.plain, link.target.plain))
          (fun link => (ranks.idxOf link.cardinality,
            link.source.table.plainText ++ '.' :: link.source.column.plainText)) plainReport ∧
        ∀ links : List Stored.Relationship, (∀ link ∈ links, link.IsNamed) →
          Stored.Relationship.report links = .ok (plainReport links) := by
  intro ranks
  have ranked (cardinality : Cardinality) : cardinality.priority = ranks.idxOf cardinality := by
    cases cardinality <;> rfl
  have sorted : Relationship.sortKey = fun link =>
      (ranks.idxOf link.cardinality, link.source.table ++ '.' :: link.source.column) :=
    funext fun link => Prod.ext (ranked link.cardinality) rfl
  have storedSorted : Stored.Relationship.sortKey = fun link => (ranks.idxOf link.cardinality,
      link.source.table.plainText ++ '.' :: link.source.column.plainText) :=
    funext fun link => Prod.ext (ranked link.cardinality) rfl
  refine ⟨?_, distinctSorted Stored.Relationship.endpoints Stored.Relationship.sortKey, ?_,
    fun _ => Stored.Relationship.report_of_isNamed⟩
  · rw [← sorted]
    exact reports_distinctSorted Relationship.key Relationship.sortKey
  · rw [← storedSorted]
    exact reports_distinctSorted Stored.Relationship.endpoints Stored.Relationship.sortKey

/-- Endpoints that are spelled alike tie, and stand as they come. -/
theorem Relationship.reports_report_tie :
    let ranks : List Cardinality := [.oneToOne, .oneToMany, .manyToOne, .manyToMany]
    let ends (link : Relationship) := (link.source, link.target)
    let place (link : Relationship) := (ranks.idxOf link.cardinality, link.source.table ++ '.' :: link.source.column)
    let plain : Relationship := ⟨⟨"a".toList, "b.c".toList⟩, ⟨"t".toList, "id".toList⟩, .manyToOne, none, .direct⟩
    let dotted : Relationship := ⟨⟨"a.b".toList, "c".toList⟩, ⟨"t".toList, "id".toList⟩, .manyToOne, none, .direct⟩
    let single : Relationship := ⟨⟨"z".toList, "id".toList⟩, ⟨"t".toList, "id".toList⟩, .oneToOne, none, .direct⟩
    IsReport ends place [single, dotted, plain, dotted] [single, dotted, plain] ∧
      (Relationship.report [dotted, plain]).Sublist (Relationship.report [dotted, plain, single]) ∧
      Relationship.report [plain, single] = Relationship.report [single, plain] ∧
      ∃ listed, Stored.Relationship.report [plain.stored, single.stored] = .ok listed ∧
        (listed.map Stored.Relationship.endpoints).Nodup := by
  intro ranks ends place plain dotted single
  obtain ⟨laws, plainReport, storedLaws, reported⟩ := Relationship.reports_report
  refine ⟨(laws.one _ _).mpr ?_, laws.fewer ?_ (by decide), laws.reordered (.swap ..) (by decide) (by decide),
    plainReport _, reported _ ?_, ((storedLaws.one _ _).mpr rfl).distinct⟩
  · have sorted : [single, dotted, plain].Pairwise fun left right => left.sortKey.le right.sortKey = true := by
      decide
    exact (List.mergeSort_of_pairwise sorted).symm
  · exact (List.prefix_append [dotted, plain] [single]).sublist
  · simp only [List.forall_mem_cons, List.not_mem_nil, false_imp_iff, implies_true, and_true]
    exact ⟨⟨_, _, rfl, rfl⟩, _, _, rfl, rfl⟩

end Schemata
