import Schemata.Inference.Links
import Mathlib.Data.List.Forall2
import Mathlib.Data.List.Nodup

/-!
Keeping the first element of each key, and the stable order of a report.
-/

namespace Schemata

section FirstOfEach

variable {ρ κ : Type} [BEq κ] [LawfulBEq κ] {key : ρ → κ} {seen : List κ} {list : List ρ}

/-- Whether a key is taken already counts for the keys of the list only. -/
theorem firstOfEach_congr_of_mem (seen other : List κ)
    (same : ∀ r ∈ list, key r ∈ seen ↔ key r ∈ other) :
    firstOfEach key seen list = firstOfEach key other list := by
  induction list generalizing seen other with
  | nil => rfl
  | cons r rest ih =>
      rw [List.forall_mem_cons] at same
      have taken : seen.contains (key r) = other.contains (key r) := by
        simp only [List.contains_eq_mem, same.1]
      simp only [firstOfEach, taken]
      split
      · exact ih seen other same.2
      · refine congrArg (r :: ·) (ih _ _ fun later member => ?_)
        rw [List.mem_cons, List.mem_cons, same.2 later member]

theorem firstOfEach_congr (seen other : List κ) (same : ∀ k, k ∈ seen ↔ k ∈ other) :
    firstOfEach key seen list = firstOfEach key other list :=
  firstOfEach_congr_of_mem seen other fun r _ => same (key r)

theorem firstOfEach_append (first second : List ρ) :
    firstOfEach key seen (first ++ second) =
      firstOfEach key seen first ++ firstOfEach key (first.map key ++ seen) second := by
  induction first generalizing seen with
  | nil => rfl
  | cons r rest ih =>
      simp only [List.cons_append, firstOfEach, List.map_cons]
      split
      · rename_i taken
        rw [ih, firstOfEach_congr (rest.map key ++ seen) (key r :: (rest.map key ++ seen))]
        intro k
        have member : key r ∈ seen := by simpa using taken
        simp only [List.mem_append, List.mem_cons]
        constructor
        · exact Or.inr
        · rintro (rfl | other)
          · exact Or.inr member
          · exact other
      · rw [ih, List.cons_append, firstOfEach_congr (rest.map key ++ key r :: seen)
          (key r :: (rest.map key ++ seen))]
        intro k
        simp only [List.mem_append, List.mem_cons]
        tauto

/-- The first element of its key stays between those that are kept of the elements around it. -/
theorem firstOfEach_append_cons {before : List ρ} {r : ρ} (free : ∀ other ∈ before, key other ≠ key r) (after : List ρ) :
    firstOfEach key [] (before ++ r :: after) =
      firstOfEach key [] before ++ r :: firstOfEach key (key r :: before.map key) after := by
  have absent : ¬ (before.map key).contains (key r) = true := by
    simpa using fun other member => free other member
  rw [firstOfEach_append, List.append_nil, firstOfEach, if_neg absent]

omit [LawfulBEq κ] in
theorem firstOfEach_sublist : (firstOfEach key seen list).Sublist list := by
  induction list generalizing seen with
  | nil => exact .slnil
  | cons r rest ih =>
      unfold firstOfEach
      split
      · exact .cons r ih
      · exact .cons_cons r ih

omit [LawfulBEq κ] in
theorem mem_of_mem_firstOfEach {r : ρ} (member : r ∈ firstOfEach key seen list) : r ∈ list :=
  firstOfEach_sublist.subset member

theorem mem_map_firstOfEach {k : κ} :
    k ∈ (firstOfEach key seen list).map key ↔ k ∈ list.map key ∧ k ∉ seen := by
  induction list generalizing seen with
  | nil => simp [firstOfEach]
  | cons r rest ih =>
      unfold firstOfEach
      split
      · rename_i taken
        have member : key r ∈ seen := by simpa using taken
        rw [ih, List.map_cons, List.mem_cons]
        constructor
        · rintro ⟨inside, free⟩
          exact ⟨Or.inr inside, free⟩
        · rintro ⟨rfl | inside, free⟩
          · exact absurd member free
          · exact ⟨inside, free⟩
      · rename_i free
        have absent : key r ∉ seen := by simpa using free
        rw [List.map_cons, List.mem_cons, ih, List.map_cons, List.mem_cons, List.mem_cons]
        by_cases same : k = key r
        · simp [same, absent]
        · simp [same]

theorem key_not_mem_of_mem_firstOfEach {r : ρ} (member : r ∈ firstOfEach key seen list) :
    key r ∉ seen :=
  (mem_map_firstOfEach.mp (List.mem_map_of_mem member)).2

theorem nodup_map_firstOfEach : ((firstOfEach key seen list).map key).Nodup := by
  induction list generalizing seen with
  | nil => exact List.nodup_nil
  | cons r rest ih =>
      unfold firstOfEach
      split
      · exact ih
      · rw [List.map_cons, List.nodup_cons]
        refine ⟨fun repeated => ?_, ih⟩
        exact (mem_map_firstOfEach.mp repeated).2 (List.mem_cons_self ..)

/-- Nothing is left out of a list whose keys are distinct and not taken. -/
theorem firstOfEach_eq_self (distinct : (list.map key).Nodup) (free : ∀ r ∈ list, key r ∉ seen) :
    firstOfEach key seen list = list := by
  induction list generalizing seen with
  | nil => rfl
  | cons r rest ih =>
      rw [List.map_cons, List.nodup_cons] at distinct
      have absent : seen.contains (key r) = false := by simpa using free r (by simp)
      rw [firstOfEach, absent, if_neg Bool.false_ne_true, ih distinct.2]
      intro other inside
      rw [List.mem_cons]
      rintro (same | taken)
      · exact distinct.1 (same ▸ List.mem_map_of_mem inside)
      · exact free other (List.mem_cons_of_mem r inside) taken

theorem filter_eq_singleton (distinct : (list.map key).Nodup) {r : ρ} (member : r ∈ list) :
    list.filter (key · == key r) = [r] := by
  induction list with
  | nil => simp at member
  | cons first rest ih =>
      rw [List.map_cons, List.nodup_cons] at distinct
      rcases List.mem_cons.mp member with rfl | later
      · have others : rest.filter (key · == key r) = [] := by
          rw [List.filter_eq_nil_iff]
          intro other inside
          rw [beq_iff_eq]
          intro same
          exact distinct.1 (same ▸ List.mem_map_of_mem inside)
        rw [List.filter_cons, if_pos BEq.rfl, others]
      · have different : ¬ (key first == key r) = true := by
          rw [beq_iff_eq]
          intro same
          exact distinct.1 (same ▸ List.mem_map_of_mem later)
        rw [List.filter_cons, if_neg different, ih distinct.2 later]

/-- What remains of a list is the first of its key. -/
theorem find?_of_mem_firstOfEach {r : ρ} (member : r ∈ firstOfEach key seen list) :
    list.find? (key · == key r) = some r := by
  induction list generalizing seen with
  | nil => simp [firstOfEach] at member
  | cons first rest ih =>
      rw [List.find?_cons]
      unfold firstOfEach at member
      split at member
      · rename_i taken
        have other : (key first == key r) = false := by
          rw [beq_eq_false_iff_ne]
          intro same
          exact key_not_mem_of_mem_firstOfEach member (same ▸ by simpa using taken)
        rw [other]
        exact ih member
      · rcases List.mem_cons.mp member with rfl | later
        · rw [BEq.rfl]
        · have other : (key first == key r) = false := by
            rw [beq_eq_false_iff_ne]
            intro same
            exact key_not_mem_of_mem_firstOfEach later (same ▸ List.mem_cons_self ..)
          rw [other]
          exact ih later

theorem mem_firstOfEach_iff {r : ρ} :
    r ∈ firstOfEach key [] list ↔ list.find? (fun other => key other == key r) = some r := by
  refine ⟨find?_of_mem_firstOfEach, fun found => ?_⟩
  have present : key r ∈ (firstOfEach key [] list).map key :=
    mem_map_firstOfEach.mpr ⟨List.mem_map_of_mem (List.mem_of_find?_eq_some found), List.not_mem_nil⟩
  obtain ⟨kept, member, same⟩ := List.mem_map.mp present
  have first := find?_of_mem_firstOfEach member
  rw [same, found] at first
  rwa [Option.some_inj.mp first]

/-- Where no two elements fit, it is the same one that lists of the same elements find. -/
theorem find?_congr_of_mem {fits : ρ → Bool} {other : List ρ} (same : ∀ r, r ∈ list ↔ r ∈ other)
    (alone : ∀ r ∈ list, ∀ s ∈ list, fits r = true → fits s = true → r = s) :
    list.find? fits = other.find? fits := by
  cases found : list.find? fits with
  | none =>
      refine (List.find?_eq_none.mpr fun r member => ?_).symm
      exact List.find?_eq_none.mp found r ((same r).mpr member)
  | some r =>
      have member := List.mem_of_find?_eq_some found
      cases found' : other.find? fits with
      | none => exact absurd (List.find?_some found) (List.find?_eq_none.mp found' r ((same r).mp member))
      | some s =>
          rw [alone r member s ((same s).mpr (List.mem_of_find?_eq_some found')) (List.find?_some found)
            (List.find?_some found')]

/-- Where the key tells the elements of each block apart, their order within it does not count. -/
theorem firstOfEach_flatten_perm {blocks others : List (List ρ)}
    (each : List.Forall₂ (fun block other => (∀ r, r ∈ block ↔ r ∈ other) ∧
      ∀ r ∈ block, ∀ s ∈ block, key r = key s → r = s) blocks others) :
    (firstOfEach key [] blocks.flatten).Perm (firstOfEach key [] others.flatten) := by
  have found : ∀ k, blocks.flatten.find? (fun r => key r == k) = others.flatten.find? fun r => key r == k := by
    intro k
    induction each with
    | nil => rfl
    | cons here _ ih =>
        rw [List.flatten_cons, List.flatten_cons, List.find?_append, List.find?_append, ih,
          find?_congr_of_mem here.1]
        intro r rIn s sIn rHas sHas
        exact here.2 r rIn s sIn ((beq_iff_eq.mp rHas).trans (beq_iff_eq.mp sHas).symm)
  refine (List.perm_ext_iff_of_nodup nodup_map_firstOfEach.of_map nodup_map_firstOfEach.of_map).mpr fun r => ?_
  rw [mem_firstOfEach_iff, mem_firstOfEach_iff, found]

/-- What remains of the parts of a list comes from the first part that has its key. -/
theorem exists_of_mem_firstOfEach_flatMap {α : Type} {parts : List α} {part : α → List ρ} {r : ρ}
    (member : r ∈ firstOfEach key seen (parts.flatMap part)) :
    ∃ before a after, parts = before ++ a :: after ∧ r ∈ part a ∧
      ∀ b ∈ before, key r ∉ (part b).map key := by
  induction parts generalizing seen with
  | nil => simp [firstOfEach] at member
  | cons a rest ih =>
      rw [List.flatMap_cons, firstOfEach_append, List.mem_append] at member
      rcases member with here | later
      · exact ⟨[], a, rest, rfl, mem_of_mem_firstOfEach here, by simp⟩
      · obtain ⟨before, b, after, rfl, inside, first⟩ := ih later
        refine ⟨a :: before, b, after, rfl, inside, ?_⟩
        intro c among
        rcases List.mem_cons.mp among with rfl | among
        · intro taken
          exact key_not_mem_of_mem_firstOfEach later (List.mem_append_left _ taken)
        · exact first c among

/-- Elements that are put behind the parts of a list take no key from the parts that follow, if no two
parts share a key. -/
theorem firstOfEach_flatMap_sublist {α : Type} {parts : List α} {fewer more : α → List ρ}
    (longer : ∀ a, fewer a <+: more a)
    (apart : parts.Pairwise fun a b => ∀ r ∈ more a, ∀ other ∈ more b, key r ≠ key other) :
    (firstOfEach key seen (parts.flatMap fewer)).Sublist
      (firstOfEach key seen (parts.flatMap more)) := by
  induction parts generalizing seen with
  | nil => exact .slnil
  | cons a rest ih =>
      obtain ⟨added, whole⟩ := longer a
      rw [List.pairwise_cons] at apart
      have here : (firstOfEach key seen (fewer a)).Sublist (firstOfEach key seen (more a)) := by
        rw [← whole, firstOfEach_append]
        exact List.sublist_append_left _ _
      have untouched : firstOfEach key ((fewer a).map key ++ seen) (rest.flatMap fewer) =
          firstOfEach key ((more a).map key ++ seen) (rest.flatMap fewer) := by
        refine firstOfEach_congr_of_mem _ _ fun r member => ?_
        obtain ⟨b, later, inside⟩ := List.mem_flatMap.mp member
        have free : key r ∉ (more a).map key := by
          intro taken
          obtain ⟨other, otherIn, same⟩ := List.mem_map.mp taken
          exact apart.1 b later other otherIn r ((longer b).subset inside) same
        have absent : key r ∉ (fewer a).map key := fun taken =>
          free (((longer a).map key).subset taken)
        rw [List.mem_append, List.mem_append, or_iff_right absent, or_iff_right free]
      rw [List.flatMap_cons, List.flatMap_cons, firstOfEach_append, firstOfEach_append, untouched]
      exact here.append (ih apart.2)

end FirstOfEach

section StableSort

variable {ρ : Type} {le : ρ → ρ → Bool} (trans : ∀ a b c, le a b = true → le b c = true → le a c = true)
  (total : ∀ a b, (le a b || le b a) = true)
include trans total

/-- The first element of a list stands between the sorted ones that must precede it and all others. -/
theorem mergeSort_cons_eq (first : ρ) (rest : List ρ) :
    (first :: rest).mergeSort le =
      ((rest.mergeSort le).filter fun other => !le first other) ++
        first :: (rest.mergeSort le).filter (le first) := by
  obtain ⟨before, after, sorted, parts, earlier⟩ := List.mergeSort_cons trans total first rest
  have ordered := List.pairwise_mergeSort trans total (first :: rest)
  rw [sorted, List.pairwise_append, List.pairwise_cons] at ordered
  have later : ∀ other ∈ after, le first other = true := ordered.2.1.1
  have kept : before.filter (fun other => !le first other) = before := List.filter_eq_self.mpr earlier
  have dropped : after.filter (fun other => !le first other) = [] := by
    simpa [List.filter_eq_nil_iff] using later
  have none : before.filter (le first) = [] := by
    simpa [List.filter_eq_nil_iff] using earlier
  rw [sorted, parts, List.filter_append, List.filter_append, kept, dropped, none,
    List.filter_eq_self.mpr later, List.append_nil, List.nil_append]

/-- Sorting keeps the order of fewer elements within that of more. -/
theorem mergeSort_sublist {fewer more : List ρ} (sub : fewer.Sublist more) :
    (fewer.mergeSort le).Sublist (more.mergeSort le) := by
  induction sub with
  | slnil => exact List.Sublist.refl _
  | cons added _ ih =>
      refine ih.trans ?_
      obtain ⟨before, after, sorted, parts, _⟩ := List.mergeSort_cons trans total added _
      rw [sorted, parts]
      exact (List.Sublist.refl before).append (List.sublist_cons_self added after)
  | cons_cons first _ ih =>
      rw [mergeSort_cons_eq trans total, mergeSort_cons_eq trans total]
      exact (ih.filter _).append ((ih.filter _).cons_cons first)

/-- To sort what is kept of a list is to keep it of the sorted list. -/
theorem mergeSort_filter (keep : ρ → Bool) (list : List ρ) :
    (list.filter keep).mergeSort le = (list.mergeSort le).filter keep := by
  induction list with
  | nil => simp
  | cons first rest ih =>
      have sorted := mergeSort_cons_eq trans total first rest
      by_cases kept : keep first = true
      · rw [List.filter_cons_of_pos kept, mergeSort_cons_eq trans total, ih, sorted, List.filter_append,
          List.filter_cons_of_pos kept]
        simp only [List.filter_filter, Bool.and_comm]
      · rw [List.filter_cons_of_neg kept, ih]
        obtain ⟨before, after, whole, parts, _⟩ := List.mergeSort_cons trans total first rest
        rw [whole, parts, List.filter_append, List.filter_append, List.filter_cons_of_neg kept]

end StableSort

section DistinctSorted

variable {ρ κ : Type} [BEq κ] [LawfulBEq κ] {key : ρ → κ} {sortKey : ρ → SortKey} {list : List ρ}

omit [LawfulBEq κ] in
theorem distinctSorted_perm :
    (distinctSorted key sortKey list).Perm (firstOfEach key [] list) :=
  List.mergeSort_perm _ _

theorem nodup_map_distinctSorted : ((distinctSorted key sortKey list).map key).Nodup :=
  (distinctSorted_perm.map key).nodup_iff.mpr nodup_map_firstOfEach

omit [LawfulBEq κ] in
theorem mem_distinctSorted {r : ρ} :
    r ∈ distinctSorted key sortKey list ↔ r ∈ firstOfEach key [] list :=
  distinctSorted_perm.mem_iff

theorem distinctSorted_perm_self (distinct : (list.map key).Nodup) :
    (distinctSorted key sortKey list).Perm list := by
  have kept : (distinctSorted key sortKey list).Perm (firstOfEach key [] list) := distinctSorted_perm
  rwa [firstOfEach_eq_self distinct (by simp)] at kept

theorem SortKey.le_refl (sortKey : SortKey) : sortKey.le sortKey = true := by
  simp [SortKey.le, Text.le_refl]

omit [LawfulBEq κ] in
theorem pairwise_distinctSorted :
    (distinctSorted key sortKey list).Pairwise fun left right =>
      (sortKey left).le (sortKey right) = true :=
  @List.pairwise_mergeSort ρ (fun left right => (sortKey left).le (sortKey right))
    (fun _ _ _ lower upper => SortKey.le_trans lower upper) (fun _ _ => SortKey.le_total _ _) _

omit [LawfulBEq κ] in
/-- The entries of one sort key stand in the order in which they were found. -/
theorem filter_distinctSorted (shared : SortKey) :
    (distinctSorted key sortKey list).filter (sortKey · == shared) =
      (firstOfEach key [] list).filter (sortKey · == shared) := by
  let found := firstOfEach key [] list
  have tied : (found.filter (sortKey · == shared)).Pairwise fun left right =>
      (sortKey left).le (sortKey right) = true := by
    refine List.pairwise_of_forall_mem_list fun left leftIn right rightIn => ?_
    have leftKey : sortKey left = shared := by simpa using (List.mem_filter.mp leftIn).2
    have rightKey : sortKey right = shared := by simpa using (List.mem_filter.mp rightIn).2
    rw [leftKey, rightKey]
    exact SortKey.le_refl shared
  -- A stable sort keeps the tied entries as a sublist, and there are as many of them after it.
  have stable : (found.filter (sortKey · == shared)).Sublist (distinctSorted key sortKey list) :=
    @List.sublist_mergeSort ρ (fun left right => (sortKey left).le (sortKey right)) found
      (fun _ _ _ lower upper => SortKey.le_trans lower upper) (fun _ _ => SortKey.le_total _ _)
      _ tied List.filter_sublist
  have inside := stable.filter (sortKey · == shared)
  rw [List.filter_filter] at inside
  simp only [Bool.and_self] at inside
  exact (inside.eq_of_length (distinctSorted_perm.filter _).length_eq.symm).symm

omit [LawfulBEq κ] in
/-- A relation that holds along the list of first elements holds between tied entries. -/
theorem pairwise_ties_distinctSorted {before : ρ → ρ → Prop}
    (ordered : (firstOfEach key [] list).Pairwise before) :
    (distinctSorted key sortKey list).Pairwise fun left right =>
      sortKey left = sortKey right → before left right := by
  rw [List.pairwise_iff_forall_sublist]
  intro left right sorted tie
  have tied := sorted.filter (sortKey · == sortKey right)
  rw [filter_distinctSorted] at tied
  simp only [List.filter_cons, tie, BEq.rfl, if_true, List.filter_nil] at tied
  exact List.pairwise_iff_forall_sublist.mp ordered (tied.trans List.filter_sublist)

/-- Fewer elements of distinct keys are sorted in the order that they have among more. -/
theorem distinctSorted_sublist {fewer more : List ρ} (sub : fewer.Sublist more)
    (distinct : (more.map key).Nodup) :
    (distinctSorted key sortKey fewer).Sublist (distinctSorted key sortKey more) := by
  rw [distinctSorted, distinctSorted, firstOfEach_eq_self distinct (by simp),
    firstOfEach_eq_self ((sub.map key).nodup distinct) (by simp)]
  exact @mergeSort_sublist ρ (fun left right => (sortKey left).le (sortKey right))
    (fun _ _ _ lower upper => SortKey.le_trans lower upper) (fun _ _ => SortKey.le_total _ _) _ _ sub

theorem distinctSorted_filter (keep : ρ → Bool) (distinct : (list.map key).Nodup) :
    distinctSorted key sortKey (list.filter keep) = (distinctSorted key sortKey list).filter keep := by
  have fewer : ((list.filter keep).map key).Nodup := (List.filter_sublist.map key).nodup distinct
  rw [distinctSorted, distinctSorted, firstOfEach_eq_self distinct (by simp),
    firstOfEach_eq_self fewer (by simp)]
  exact @mergeSort_filter ρ (fun left right => (sortKey left).le (sortKey right))
    (fun _ _ _ lower upper => SortKey.le_trans lower upper) (fun _ _ => SortKey.le_total _ _) keep list

end DistinctSorted

/-- Adding links keeps the first one of each key that is not linked yet. -/
theorem addLinks_eq (found links : List Relationship) :
    addLinks found links =
      found ++ firstOfEach Relationship.key (found.map Relationship.key) links := by
  induction links generalizing found with
  | nil => simp [addLinks, firstOfEach]
  | cons link rest ih =>
      have present : (found.any fun present => present.key == link.key) =
          (found.map Relationship.key).contains link.key := by
        rw [Bool.eq_iff_iff]
        simp only [List.any_eq_true, beq_iff_eq, List.contains_eq_mem, decide_eq_true_eq, List.mem_map]
      change addLinks (if found.any fun present => present.key == link.key then found
        else found ++ [link]) rest = _
      rw [present, firstOfEach]
      split
      · exact ih found
      · rw [ih, List.append_assoc, List.singleton_append, List.map_append,
          firstOfEach_congr ((found.map Relationship.key) ++ [link].map Relationship.key)
            (link.key :: found.map Relationship.key)]
        intro k
        simp only [List.map_cons, List.map_nil, List.mem_append, List.mem_cons]
        tauto

theorem addLinks_append (found first second : List Relationship) :
    addLinks (addLinks found first) second = addLinks found (first ++ second) := by
  simp only [addLinks, List.foldl_append]

end Schemata
