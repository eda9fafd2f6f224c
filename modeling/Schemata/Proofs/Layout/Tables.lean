import Mathlib.Tactic.Tauto
import Schemata.Proofs.Layout.Lines
import Schemata.Proofs.Layout.Markup

/-!
Tables with markup in their cells. A table can be rendered exactly if the markup of each of its cells is right, and
its cells then show what their markup stands for.
-/

namespace Schemata.Layout

theorem mem_flatten_zipWith_cons {α : Type} {column : List α} {rows : List (List α)}
    (even : column.length = rows.length) (a : α) :
    a ∈ (column.zipWith List.cons rows).flatten ↔ a ∈ column ∨ a ∈ rows.flatten := by
  induction column generalizing rows with
  | nil =>
      obtain rfl := List.length_eq_zero_iff.mp even.symm
      simp
  | cons first rest ih =>
      cases rows with
      | nil => cases even
      | cons row others =>
          rw [List.zipWith_cons_cons, List.flatten_cons, List.mem_append, ih (Nat.succ.inj even)]
          simp only [List.mem_cons, List.flatten_cons, List.mem_append]
          tauto

/-- Rows that are put together from columns hold what the columns hold. -/
theorem mem_flatten_transposed {α : Type} {columns : List (List α)} {count : Nat}
    (even : ∀ column ∈ columns, column.length = count) :
    let rows := columns.foldr (List.zipWith List.cons) (List.replicate count [])
    rows.length = count ∧ ∀ a, a ∈ rows.flatten ↔ a ∈ columns.flatten := by
  induction columns with
  | nil => simp
  | cons column rest ih =>
      obtain ⟨here, others⟩ := List.forall_mem_cons.mp even
      obtain ⟨length, members⟩ := ih others
      refine ⟨?_, fun a => ?_⟩
      · simp [here, length]
      · rw [List.foldr_cons, mem_flatten_zipWith_cons (here.trans length.symm), members, List.flatten_cons,
          List.mem_append]

namespace Grid

variable {grid : Grid}

/-- The markup of each cell under a heading is right. -/
def IsSound (grid : Grid) : Prop :=
  ∀ cells ∈ grid.rows, ∀ index < grid.headings.length, Markup.IsSound (cells[index]?.getD [])

/-- The cells of each column, read one below the other. -/
abbrev readColumns (grid : Grid) : Except MarkupError (List (List Markup.Marked)) :=
  (List.range grid.headings.length).mapM fun index =>
    grid.rows.mapM fun cells => Markup.read (cells[index]?.getD [])

/-- What is read from the columns is what is read from the cells. -/
theorem mem_columns_iff {columns : List (List Markup.Marked)} (all : grid.readColumns = .ok columns)
    (marked : Markup.Marked) :
    marked ∈ (columns.foldr (List.zipWith List.cons) (List.replicate grid.rows.length [])).flatten ↔
      ∃ cells ∈ grid.rows, ∃ index < grid.headings.length, Markup.read (cells[index]?.getD []) = .ok marked := by
  have even : ∀ column ∈ columns, column.length = grid.rows.length := by
    intro column member
    obtain ⟨index, _, column⟩ := exists_of_mem_mapM all member
    exact length_of_mapM column
  rw [(mem_flatten_transposed even).2, List.mem_flatten]
  constructor
  · rintro ⟨column, member, inside⟩
    obtain ⟨index, under, read⟩ := exists_of_mem_mapM all member
    obtain ⟨cells, listed, here⟩ := exists_of_mem_mapM read inside
    exact ⟨cells, listed, index, List.mem_range.mp under, here⟩
  · rintro ⟨cells, listed, index, under, here⟩
    obtain ⟨column, member, read⟩ := mem_of_mapM all (List.mem_range.mpr under)
    obtain ⟨other, inside, there⟩ := mem_of_mapM read listed
    cases here.symm.trans there
    exact ⟨column, member, inside⟩

theorem exists_shownRows (sound : grid.IsSound) : ∃ rows, grid.shownRows = .ok rows := by
  obtain ⟨columns, all⟩ : ∃ columns, grid.readColumns = .ok columns := by
    refine exists_mapM fun index under => exists_mapM fun cells listed => ?_
    obtain ⟨_, shows⟩ := sound cells listed index (List.mem_range.mp under)
    obtain ⟨marked, read, _⟩ := bind_eq_ok.mp shows
    exact ⟨marked, read⟩
  have applied : ∃ rows, (columns.foldr (List.zipWith List.cons) (List.replicate grid.rows.length [])).mapM
      (fun cells => cells.mapM Markup.Marked.applied) = .ok rows := by
    refine exists_mapM fun row member => exists_mapM fun marked inside => ?_
    obtain ⟨cells, listed, index, under, here⟩ :=
      (mem_columns_iff all marked).mp (List.mem_flatten.mpr ⟨row, member, inside⟩)
    obtain ⟨text, shows⟩ := sound cells listed index under
    obtain ⟨other, read, applied⟩ := bind_eq_ok.mp shows
    cases here.symm.trans read
    exact ⟨text, applied⟩
  obtain ⟨rows, shown⟩ := applied
  exact ⟨rows, bind_eq_ok.mpr ⟨columns, all, shown⟩⟩

theorem isSound_of_shownRows {rows : List (List Text)} (shown : grid.shownRows = .ok rows) : grid.IsSound := by
  obtain ⟨columns, all, applied⟩ := bind_eq_ok.mp shown
  intro cells listed index under
  obtain ⟨column, _, read⟩ := mem_of_mapM all (List.mem_range.mpr under)
  obtain ⟨marked, _, here⟩ := mem_of_mapM read listed
  obtain ⟨row, member, inside⟩ :=
    List.mem_flatten.mp ((mem_columns_iff all marked).mpr ⟨cells, listed, index, under, here⟩)
  obtain ⟨texts, _, rowApplied⟩ := mem_of_mapM applied member
  obtain ⟨text, _, shows⟩ := mem_of_mapM rowApplied inside
  exact ⟨text, bind_eq_ok.mpr ⟨marked, here, shows⟩⟩

theorem shown_of_mem_shownRows {rows : List (List Text)} (shown : grid.shownRows = .ok rows) :
    ∀ row ∈ rows, ∀ cell ∈ row, ∃ cells ∈ grid.rows, ∃ index < grid.headings.length,
      Markup.shown (cells[index]?.getD []) = .ok cell := by
  obtain ⟨columns, all, applied⟩ := bind_eq_ok.mp shown
  intro row member cell inside
  obtain ⟨marked, among, rowApplied⟩ := exists_of_mem_mapM applied member
  obtain ⟨mark, present, shows⟩ := exists_of_mem_mapM rowApplied inside
  obtain ⟨cells, listed, index, under, here⟩ :=
    (mem_columns_iff all mark).mp (List.mem_flatten.mpr ⟨marked, among, present⟩)
  exact ⟨cells, listed, index, under, bind_eq_ok.mpr ⟨mark, here, shows⟩⟩

end Grid

end Schemata.Layout
