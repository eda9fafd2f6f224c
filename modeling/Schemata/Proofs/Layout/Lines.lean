import Schemata.Layout.Grid
import Schemata.Proofs.Text.Parts

/-!
The characters of what is drawn. Breaking, cutting and placing lines adds blanks and ellipses, and a box adds its
strokes; every other character comes from a cell. So a property of characters that holds in the cells and of what
is added holds in the whole drawing.
-/

namespace Schemata.Layout

open Text (forall_mem_intercalate forall_mem_splitOnP forall_mem_span forall_mem_trimRight forall_mem_getD)

variable {holds : Char → Prop}

/-! ### Clusters -/

theorem forall_mem_blanks (blank : holds ' ') (count : Nat) : ∀ c ∈ blanks count, holds c :=
  fun _ member => List.eq_of_mem_replicate member ▸ blank

theorem forall_mem_padded (blank : holds ' ') {s : Text} (each : ∀ c ∈ s, holds c) (room : Nat) :
    ∀ c ∈ padded room s, holds c :=
  List.forall_mem_append.mpr ⟨each, forall_mem_blanks blank _⟩

/-- The characters of all clusters have the property. -/
def ClustersHold (holds : Char → Prop) (clusters : List Cluster) : Prop :=
  ∀ cluster ∈ clusters, ∀ c ∈ cluster.text, holds c

theorem ClustersHold.attach {clusters : List Cluster} (before : ClustersHold holds clusters) {more : Text}
    (each : ∀ c ∈ more, holds c) (added : Nat) : ClustersHold holds (Cluster.attach more added clusters) := by
  cases clusters with
  | nil => exact List.forall_mem_singleton.mpr each
  | cons cluster others =>
      obtain ⟨last, earlier⟩ := List.forall_mem_cons.mp before
      exact List.forall_mem_cons.mpr ⟨List.forall_mem_append.mpr ⟨last, each⟩, earlier⟩

theorem ClustersHold.clustersFrom {measured : Option Char} {before : List Cluster} {s : Text}
    (earlier : ClustersHold holds before) (each : ∀ c ∈ s, holds c) :
    ClustersHold holds (clustersFrom measured before s) := by
  fun_induction Layout.clustersFrom measured before s with
  | case1 => exact earlier
  | case2 => exact earlier.attach each 0
  | case3 _ _ _ _ _ _ ih =>
      simp only [List.forall_mem_cons] at each
      exact ih (earlier.attach (by simp [each]) 0) each.2.2
  | case4 _ _ _ _ _ _ ih | case5 _ _ _ _ _ _ _ _ ih =>
      simp only [List.forall_mem_cons] at each
      exact ih (earlier.attach (by simp [each]) _) each.2
  | case6 _ _ _ _ _ _ _ _ ih =>
      simp only [List.forall_mem_cons] at each
      exact ih (List.forall_mem_cons.mpr ⟨by simp [each], earlier⟩) each.2

theorem clustersHold_clusters {s : Text} (each : ∀ c ∈ s, holds c) : ClustersHold holds (clusters s) :=
  fun cluster member =>
    ClustersHold.clustersFrom nofun each cluster (List.mem_reverse.mp member)

theorem forall_mem_fittingClusters (blank : holds ' ') {clusters : List Cluster} (each : ClustersHold holds clusters)
    (room : Nat) : ∀ c ∈ fittingClusters room clusters, holds c := by
  fun_induction fittingClusters room clusters with
  | case1 | case2 => exact nofun
  | case3 _ _ _ _ ih =>
      obtain ⟨first, others⟩ := List.forall_mem_cons.mp each
      exact List.forall_mem_append.mpr ⟨first, ih others⟩
  | case4 => exact List.forall_mem_singleton.mpr blank

theorem forall_mem_fitted (blank : holds ' ') {s : Text} (each : ∀ c ∈ s, holds c) (room : Nat) :
    ∀ c ∈ fitted room s, holds c := by
  unfold fitted
  split
  · exact forall_mem_padded blank each room
  · exact forall_mem_fittingClusters blank (clustersHold_clusters each) room

/-! ### Lines -/

theorem forall_mem_expandTabs (blank : holds ' ') {line : Text} (each : ∀ c ∈ line, holds c) :
    ∀ c ∈ expandTabs line, holds c := by
  have joined (column : Nat) (parts : List Text) (parted : ∀ part ∈ parts, ∀ c ∈ part, holds c) :
      ∀ c ∈ joinTabs column parts, holds c := by
    fun_induction joinTabs column parts with
    | case1 => exact nofun
    | case2 => exact List.forall_mem_singleton.mp parted
    | case3 _ _ _ _ _ ih =>
        obtain ⟨first, others⟩ := List.forall_mem_cons.mp parted
        simp only [List.forall_mem_append, List.forall_mem_cons]
        exact ⟨⟨first, blank, forall_mem_blanks blank _⟩, ih others⟩
  exact joined 0 _ (forall_mem_splitOnP each)

theorem forall_mem_wordsOf {s : Text} (each : ∀ c ∈ s, holds c) (count : Nat) :
    ∀ word ∈ wordsOf count s, ∀ c ∈ word, holds c := by
  induction count generalizing s with
  | zero => exact nofun
  | succ count ih =>
      obtain ⟨before, further⟩ := forall_mem_span each Text.isBlank
      obtain ⟨word, behind⟩ := forall_mem_span further fun c => !Text.isBlank c
      obtain ⟨after, rest⟩ := forall_mem_span behind Text.isBlank
      rw [wordsOf]
      dsimp only
      split
      · exact nofun
      · simp only [List.forall_mem_cons, List.forall_mem_append]
        exact ⟨⟨⟨before, word⟩, after⟩, ih rest⟩

theorem forall_mem_chopped {room used : Nat} {part : Text} {clusters : List Cluster} (begun : ∀ c ∈ part, holds c)
    (each : ClustersHold holds clusters) : ∀ line ∈ chopped room used part clusters, ∀ c ∈ line, holds c := by
  fun_induction chopped room used part clusters with
  | case1 => exact nofun
  | case2 => exact List.forall_mem_singleton.mpr begun
  | case3 _ _ _ _ _ ih =>
      obtain ⟨first, others⟩ := List.forall_mem_cons.mp each
      exact List.forall_mem_cons.mpr ⟨begun, ih first others⟩
  | case4 _ _ _ _ _ ih =>
      obtain ⟨first, others⟩ := List.forall_mem_cons.mp each
      exact ih (List.forall_mem_append.mpr ⟨begun, first⟩) others

/-- The characters of all lines that are filled have the property. -/
structure Filling.Holds (holds : Char → Prop) (filling : Filling) : Prop where
  lines : ∀ line ∈ filling.lines, ∀ c ∈ line, holds c
  line : ∀ c ∈ filling.line, holds c

theorem Filling.Holds.startLine {filling : Filling} (before : filling.Holds holds) {part : Text}
    (each : ∀ c ∈ part, holds c) (used : Nat) : (filling.startLine part used).Holds holds := by
  unfold Filling.startLine
  split
  · exact ⟨nofun, each⟩
  · exact ⟨List.forall_mem_append.mpr ⟨before.lines, List.forall_mem_singleton.mpr before.line⟩, each⟩

theorem Filling.Holds.foldl {step : Filling → Text → Filling}
    (keeps : ∀ filling part, (∀ c ∈ part, holds c) → filling.Holds holds → (step filling part).Holds holds)
    {parts : List Text} (each : ∀ part ∈ parts, ∀ c ∈ part, holds c) {filling : Filling}
    (before : filling.Holds holds) : (parts.foldl step filling).Holds holds := by
  induction parts generalizing filling with
  | nil => exact before
  | cons part rest ih =>
      obtain ⟨first, others⟩ := List.forall_mem_cons.mp each
      exact ih others (keeps filling part first before)

theorem Filling.Holds.add {filling : Filling} (before : filling.Holds holds) {word : Text}
    (each : ∀ c ∈ word, holds c) (room : Nat) (overflow : Overflow) :
    (filling.add room overflow word).Holds holds := by
  have behind : ∀ c ∈ filling.line ++ word, holds c := List.forall_mem_append.mpr ⟨before.line, each⟩
  unfold Filling.add
  dsimp only
  split
  · exact ⟨before.lines, behind⟩
  · split
    · cases overflow with
      | ellipsis => exact before.startLine each _
      | fold =>
          exact before.foldl (fun _ _ part before => before.startLine part _)
            (forall_mem_chopped nofun (clustersHold_clusters each))
    · split
      · exact ⟨before.lines, behind⟩
      · exact before.startLine each _

theorem forall_mem_truncated (blank : holds ' ') (ellipsis : holds '…') {line : Text} (each : ∀ c ∈ line, holds c)
    (room : Nat) (overflow : Overflow) : ∀ c ∈ truncated room overflow line, holds c := by
  unfold truncated
  split
  · exact each
  · cases overflow with
    | fold => exact forall_mem_fitted blank each room
    | ellipsis =>
        exact List.forall_mem_append.mpr
          ⟨forall_mem_fitted blank each (room - 1), List.forall_mem_singleton.mpr ellipsis⟩

theorem forall_mem_withoutExcess {line : Text} (each : ∀ c ∈ line, holds c) (room : Nat) :
    ∀ c ∈ withoutExcess room line, holds c :=
  fun c member => each c (List.mem_of_mem_take member)

theorem forall_mem_brokenLine (blank : holds ' ') {line : Text} (each : ∀ c ∈ line, holds c) (room : Nat)
    (overflow : Overflow) : ∀ part ∈ brokenLine room overflow line, ∀ c ∈ part, holds c := by
  have expanded := forall_mem_expandTabs blank each
  unfold brokenLine
  dsimp only
  split
  · exact List.forall_mem_singleton.mpr (forall_mem_withoutExcess expanded room)
  · have filled := Filling.Holds.foldl (fun _ _ word before => before.add word room overflow)
      (forall_mem_wordsOf expanded ((expandTabs line).length + 1)) (⟨nofun, nofun⟩ : Filling.Holds holds {})
    refine List.forall_mem_map.mpr fun part member => forall_mem_withoutExcess ?_ room
    rcases List.mem_append.mp member with earlier | last
    · exact filled.lines part earlier
    · exact List.mem_singleton.mp last ▸ filled.line

theorem forall_mem_wrapped (blank : holds ' ') (ellipsis : holds '…') {s : Text} (each : ∀ c ∈ s, holds c)
    (room : Nat) (overflow : Overflow) : ∀ line ∈ wrapped room overflow s, ∀ c ∈ line, holds c := by
  refine List.forall_mem_map.mpr fun line member => forall_mem_truncated blank ellipsis ?_ room overflow
  obtain ⟨whole, split, inside⟩ := List.mem_flatMap.mp member
  exact forall_mem_brokenLine blank (forall_mem_splitOnP each whole split) room overflow line inside

theorem forall_mem_aligned (blank : holds ' ') (ellipsis : holds '…') {line : Text} (each : ∀ c ∈ line, holds c)
    (room : Nat) (alignment : Alignment) : ∀ c ∈ aligned room alignment line, holds c := by
  cases alignment with
  | left => exact forall_mem_padded blank (forall_mem_truncated blank ellipsis each room .ellipsis) room
  | right =>
      exact List.forall_mem_append.mpr ⟨forall_mem_blanks blank _,
        forall_mem_truncated blank ellipsis (forall_mem_trimRight each) room .ellipsis⟩

/-! ### Tables -/

namespace Grid

/-- The characters that a table adds to those of its texts. -/
def additions : Text :=
  " …\n┏┳┓━┃┡╇┩│└┴┘─".toList

def Strokes.AreAdded (strokes : Strokes) : Prop :=
  strokes.left ∈ additions ∧ strokes.between ∈ additions ∧ strokes.right ∈ additions

variable {strokes : Strokes} (added : ∀ c ∈ additions, holds c)

include added

theorem forall_mem_cellLines {cell : Text} (each : ∀ c ∈ cell, holds c) (width : Nat) (alignment : Alignment) :
    ∀ line ∈ cellLines width alignment cell, ∀ c ∈ line, holds c := by
  have blank := added ' ' (by decide)
  have ellipsis := added '…' (by decide)
  refine List.forall_mem_map.mpr fun line member => ?_
  have inside := forall_mem_wrapped blank ellipsis each _ _ line member
  have placed := forall_mem_padded blank (forall_mem_aligned blank ellipsis inside (width - 2) alignment) (width - 2)
  exact List.forall_mem_append.mpr
    ⟨List.forall_mem_cons.mpr ⟨blank, placed⟩, List.forall_mem_singleton.mpr blank⟩

theorem forall_mem_join (edges : strokes.AreAdded) {parts : List Text} (each : ∀ part ∈ parts, ∀ c ∈ part, holds c) :
    ∀ c ∈ join strokes parts, holds c := by
  obtain ⟨left, between, right⟩ := edges
  have inner : ∀ c ∈ List.intercalate [strokes.between] parts, holds c :=
    forall_mem_intercalate (List.forall_mem_singleton.mpr (added _ between)) each
  have last : ∀ c ∈ [strokes.right, '\n'], holds c := by
    simp [added strokes.right right, added '\n' (by decide)]
  exact List.forall_mem_append.mpr ⟨List.forall_mem_cons.mpr ⟨added _ left, inner⟩, last⟩

theorem forall_mem_rule (edges : strokes.AreAdded) {stroke : Char} (drawn : stroke ∈ additions) (widths : List Nat) :
    ∀ c ∈ rule strokes stroke widths, holds c := by
  refine forall_mem_join added edges (List.forall_mem_map.mpr fun width _ c member => ?_)
  exact List.eq_of_mem_replicate member ▸ added stroke drawn

theorem forall_mem_row (edges : strokes.AreAdded) {cells : List Text} (each : ∀ cell ∈ cells, ∀ c ∈ cell, holds c)
    (inHead : Bool) (widths : List Nat) (alignments : List Alignment) :
    ∀ c ∈ row strokes inHead widths alignments cells, holds c := by
  intro c member
  obtain ⟨index, _, inside⟩ := List.mem_flatMap.mp member
  refine forall_mem_join added edges ?_ c inside
  simp only [List.map_map, List.forall_mem_map]
  rintro ⟨width, alignment, cell⟩ paired
  have lines := forall_mem_cellLines added (each cell (List.of_mem_zip (List.of_mem_zip paired).2).2) width alignment
  have missing (count : Nat) : ∀ line ∈ List.replicate count (blanks width), ∀ c ∈ line, holds c :=
    fun line repeated => List.eq_of_mem_replicate repeated ▸ forall_mem_blanks (added ' ' (by decide)) width
  dsimp only [Function.comp]
  split
  · exact forall_mem_getD (List.forall_mem_append.mpr ⟨missing _, lines⟩) index
  · exact forall_mem_getD (List.forall_mem_append.mpr ⟨lines, missing _⟩) index

theorem forall_mem_draw {grid : Grid} (title : ∀ c ∈ grid.title, holds c)
    (headings : ∀ heading ∈ grid.headings, ∀ c ∈ heading.title, holds c)
    (cells : ∀ row ∈ grid.rows, ∀ cell ∈ row, ∀ c ∈ cell, holds c) : ∀ c ∈ grid.draw, holds c := by
  have blank := added ' ' (by decide)
  have top (width : Nat) : ∀ c ∈ titleLine width grid.title, holds c :=
    List.forall_mem_append.mpr ⟨forall_mem_padded blank
      (List.forall_mem_append.mpr ⟨forall_mem_blanks blank _, title⟩) width,
      List.forall_mem_singleton.mpr (added '\n' (by decide))⟩
  have edges : Strokes.AreAdded ⟨'┏', '┳', '┓'⟩ ∧ Strokes.AreAdded ⟨'┃', '┃', '┃'⟩ ∧
      Strokes.AreAdded ⟨'┡', '╇', '┩'⟩ ∧ Strokes.AreAdded ⟨'│', '│', '│'⟩ ∧
      Strokes.AreAdded ⟨'└', '┴', '┘'⟩ := by
    unfold Strokes.AreAdded
    decide
  obtain ⟨above, head, below, body, bottom⟩ := edges
  unfold draw
  simp only [List.forall_mem_append]
  refine ⟨⟨⟨⟨⟨top _, forall_mem_rule added above (by decide) _⟩,
    forall_mem_row added head (List.forall_mem_map.mpr headings) _ _ _⟩,
    forall_mem_rule added below (by decide) _⟩, fun c member => ?_⟩, forall_mem_rule added bottom (by decide) _⟩
  obtain ⟨row, listed, inside⟩ := List.mem_flatMap.mp member
  exact forall_mem_row added body (cells row listed) _ _ _ c inside

end Grid

end Schemata.Layout
