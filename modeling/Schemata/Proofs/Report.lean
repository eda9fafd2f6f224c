import Mathlib.Algebra.Group.Nat.Defs
import Schemata.Proofs.Layout.Tables
import Schemata.Report

/-!
Reports of results. The report shows names as texts with markup, and messages escaped. So it can be printed exactly
if the markup of the names that it shows is right, given an encoding for what they stand for.
-/

namespace Schemata

open Layout (Grid)
open Layout.Markup (IsSound IsEncodable IsShowable isShowable_of_ordinary)

/-! ### Tables and lines -/

namespace Report

variable {title : String} {headings : List (String × Layout.Alignment)} {rows : List (List Text)}

theorem encodable_eq_ok {s : Text} (encoded : ∀ c ∈ s, Text.standsForHalf c = false) : encodable s = .ok s := by
  have whole : s.any Text.standsForHalf = false := List.any_eq_false.mpr fun c member => by simp [encoded c member]
  rw [encodable, whole]
  rfl

/-- A table of a report that was printed has only cells of right markup. -/
theorem isSound_of_grid {text : Text} (narrow : ∀ row ∈ rows, row.length ≤ headings.length)
    (printed : grid title headings rows = .ok text) : ∀ row ∈ rows, ∀ cell ∈ row, IsSound cell := by
  obtain ⟨drawn, rendered, _⟩ := bind_eq_ok.mp printed
  obtain ⟨shownRows, shown, _⟩ := bind_eq_ok.mp (mapError_eq_ok.mp rendered)
  intro row listed cell inside
  obtain ⟨index, under, same⟩ := List.getElem_of_mem inside
  have sound := Grid.isSound_of_shownRows shown row listed index (by
    simpa using Nat.lt_of_lt_of_le under (narrow row listed))
  rwa [List.getElem?_eq_getElem under, same] at sound

theorem exists_grid (titled : ∀ c ∈ title.toList, Text.standsForHalf c = false)
    (headed : ∀ heading ∈ headings, ∀ c ∈ heading.1.toList, Text.standsForHalf c = false)
    (cells : ∀ row ∈ rows, ∀ cell ∈ row, IsShowable cell) : ∃ text, grid title headings rows = .ok text := by
  have showable : ∀ row ∈ rows, ∀ index : Nat, IsShowable (row[index]?.getD []) := by
    intro row listed index
    cases found : row[index]? with
    | none => exact isShowable_of_ordinary nofun
    | some cell => exact cells row listed cell (List.mem_of_getElem? found)
  let table : Grid :=
    { title := title.toList
      headings := headings.map fun heading => ⟨heading.1.toList, heading.2⟩
      rows }
  obtain ⟨shownRows, shown⟩ := table.exists_shownRows fun row listed index _ => (showable row listed index).sound
  have drawn : ∀ c ∈ ({ table with rows := shownRows } : Grid).draw, Text.standsForHalf c = false := by
    refine Grid.forall_mem_draw (by decide) titled (List.forall_mem_map.mpr headed) fun row member cell inside => ?_
    obtain ⟨cells, listed, index, _, visible⟩ := Grid.shown_of_mem_shownRows shown row member cell inside
    exact (showable cells listed index).encodable cell visible
  refine ⟨_, bind_eq_ok.mpr ⟨_, mapError_eq_ok.mpr (bind_eq_ok.mpr ⟨shownRows, shown, rfl⟩), encodable_eq_ok drawn⟩⟩

theorem isSound_of_line {s text : Text} (printed : line s = .ok text) : IsSound s := by
  obtain ⟨lines, rendered, _⟩ := bind_eq_ok.mp printed
  obtain ⟨visible, shown, _⟩ := bind_eq_ok.mp (mapError_eq_ok.mp rendered)
  exact ⟨visible, shown⟩

theorem exists_line {s : Text} (showable : IsShowable s) : ∃ text, line s = .ok text := by
  obtain ⟨visible, shown⟩ := showable.sound
  have lines : ∀ c ∈ (Layout.wrapped Layout.screen .fold visible).flatMap fun line => line ++ ['\n'],
      Text.standsForHalf c = false := by
    intro c member
    obtain ⟨line, wrapped, inside⟩ := List.mem_flatMap.mp member
    rcases List.mem_append.mp inside with here | ends
    · exact Layout.forall_mem_wrapped (by decide) (by decide) (showable.encodable visible shown) _ _ line wrapped c here
    · rw [List.mem_singleton.mp ends]
      decide
  exact ⟨_, bind_eq_ok.mpr ⟨_, mapError_eq_ok.mpr (bind_eq_ok.mpr ⟨visible, shown, rfl⟩), encodable_eq_ok lines⟩⟩

/-- The cells of a row are the names, and texts that show as they are. -/
structure Shows (names row : List Text) : Prop where
  named : ∀ name ∈ names, name ∈ row ∨ IsShowable name
  cells : ∀ cell ∈ row, cell ∈ names ∨ IsShowable cell

/-- A table with a row for each element of a list can be printed if its names can be shown, and only if their
markup is right. -/
theorem rows_printed {α β : Type} {list : List α} {kept : α → β} {read : β → Except ReportError (List Text)}
    {names : α → List Text} (titled : ∀ c ∈ title.toList, Text.standsForHalf c = false)
    (headed : ∀ heading ∈ headings, ∀ c ∈ heading.1.toList, Text.standsForHalf c = false)
    (each : ∀ a ∈ list, ∃ row, read (kept a) = .ok row ∧ row.length ≤ headings.length ∧ Shows (names a) row) :
    ((∀ a ∈ list, ∀ name ∈ names a, IsShowable name) →
      ∃ text, ((list.map kept).mapM read >>= grid title headings) = .ok text) ∧
    ∀ text, ((list.map kept).mapM read >>= grid title headings) = .ok text →
      ∀ a ∈ list, ∀ name ∈ names a, IsSound name := by
  obtain ⟨rows, all⟩ : ∃ rows, (list.map kept).mapM read = .ok rows :=
    exists_mapM (List.forall_mem_map.mpr fun a member => (each a member).imp fun _ row => row.1)
  have source (row : List Text) (listed : row ∈ rows) :
      row.length ≤ headings.length ∧ ∃ a ∈ list, Shows (names a) row := by
    obtain ⟨b, among, here⟩ := exists_of_mem_mapM all listed
    obtain ⟨a, member, rfl⟩ := List.mem_map.mp among
    obtain ⟨other, there, length, shows⟩ := each a member
    cases here.symm.trans there
    exact ⟨length, a, member, shows⟩
  refine ⟨fun showable => ?_, fun text printed a member name shown => ?_⟩
  · have cells : ∀ row ∈ rows, ∀ cell ∈ row, IsShowable cell := by
      intro row listed cell inside
      obtain ⟨_, a, member, shows⟩ := source row listed
      exact (shows.cells cell inside).elim (showable a member cell) id
    obtain ⟨text, printed⟩ := exists_grid titled headed cells
    exact ⟨text, bind_eq_ok.mpr ⟨rows, all, printed⟩⟩
  · obtain ⟨others, again, printed⟩ := bind_eq_ok.mp printed
    cases all.symm.trans again
    have narrow : ∀ row ∈ rows, row.length ≤ headings.length := fun row listed => (source row listed).1
    obtain ⟨row, listed, here⟩ := mem_of_mapM all (List.mem_map_of_mem member)
    obtain ⟨other, there, _, shows⟩ := each a member
    cases here.symm.trans there
    exact (shows.named name shown).elim (isSound_of_grid narrow printed row listed name) IsShowable.sound

end Report

/-! ### Results of the inference -/

/-- The names of the key columns, put together as a report shows them. -/
def Table.keyText (table : Table) : Text :=
  List.intercalate ", ".toList ((table.columns.filter Column.primaryKey).map Column.name)

def Table.shownNames (table : Table) : List Text :=
  [table.name, table.keyText]

def Relationship.shownNames (relationship : Relationship) : List Text :=
  relationship.source.qualifiedName :: relationship.target.qualifiedName :: relationship.junctionTable.toList

/-- The names that a report reads as texts with markup. -/
def Result.shownNames (result : Result) : List Text :=
  result.tables.flatMap Table.shownNames ++ result.relationships.flatMap Relationship.shownNames

namespace Report

theorem isOrdinary_of_isDigit {c : Char} (digit : c.isDigit = true) : Layout.Markup.isOrdinary c = true := by
  have small : c.toNat ≤ 57 := by
    simp only [Char.isDigit, Bool.and_eq_true, decide_eq_true_eq] at digit
    exact digit.2
  have whole : Text.standsForHalf c = false := by
    simp only [Text.standsForHalf, Bool.and_eq_false_iff, decide_eq_false_iff_not]
    omega
  have noBracket : c ≠ '[' := by
    rintro rfl
    cases digit
  have noColon : c ≠ ':' := by
    rintro rfl
    cases digit
  simp [Layout.Markup.isOrdinary, whole, noBracket, noColon]

theorem isShowable_numberText (n : Nat) : IsShowable (numberText n) := by
  refine isShowable_of_ordinary fun c member => ?_
  have natural : ¬ (n : Int) < 0 := Int.not_lt.mpr (Int.natCast_nonneg n)
  rw [numberText, Value.integerText, if_neg natural] at member
  exact isOrdinary_of_isDigit (Nat.isDigit_of_mem_toDigits (by decide) (by decide) member)

theorem isShowable_nil : IsShowable [] :=
  isShowable_of_ordinary nofun

theorem isShowable_dash : IsShowable ['-'] :=
  isShowable_of_ordinary (by decide)

theorem mapM_nameText (names : List Text) : (names.map .text).mapM nameText = .ok names := by
  induction names with
  | nil => rfl
  | cons name rest ih =>
      rw [List.map_cons, List.mapM_cons, ih]
      rfl

theorem tableRow_stored (junctions : List Value) (table : Table) :
    ∃ row, tableRow junctions table.stored = .ok row ∧ row.length ≤ 5 ∧ Shows table.shownNames row := by
  obtain ⟨keys, named⟩ : ∃ keys, keys = (table.columns.filter Column.primaryKey).map Column.name := ⟨_, rfl⟩
  have read : ((table.stored.columns.filter fun column => column.primaryKey.isGiven).map Stored.Column.name).mapM
      nameText = .ok keys := by
    have texts : (table.stored.columns.filter fun column => column.primaryKey.isGiven).map Stored.Column.name =
        keys.map .text := by
      rw [named, Table.stored, List.filter_map, List.map_map, List.map_map]
      rfl
    rw [texts, mapM_nameText]
  obtain ⟨mark, marked, markShows⟩ : ∃ mark,
      (if junctions.contains (.text table.name) then "yes".toList else []) = mark ∧ IsShowable mark := by
    refine ⟨_, rfl, ?_⟩
    split <;> exact isShowable_of_ordinary (by decide)
  refine ⟨[table.name, numberText table.stored.columns.length,
    if keys.isEmpty then ['-'] else List.intercalate ", ".toList keys,
    numberText (table.stored.columns.countP fun column => column.foreignKey.isSome), mark],
    bind_eq_ok.mpr ⟨keys, read, by rw [← marked]; rfl⟩, Nat.le_refl 5, ?_⟩
  have joined : table.keyText = List.intercalate ", ".toList keys := by rw [Table.keyText, named]
  rw [Table.shownNames, joined]
  cases keys with
  | nil => constructor <;> simp [isShowable_nil, isShowable_numberText, isShowable_dash, markShows]
  | cons key rest => constructor <;> simp [isShowable_numberText, markShows]

theorem isShowable_cardinality (cardinality : Cardinality) : IsShowable cardinality.label := by
  cases cardinality <;> exact isShowable_of_ordinary (by decide)

theorem isShowable_origin (origin : Origin) : IsShowable origin.label := by
  cases origin <;> exact isShowable_of_ordinary (by decide)

theorem relationshipRow_stored (relationship : Relationship) :
    ∃ row, relationshipRow relationship.stored = .ok row ∧ row.length ≤ 5 ∧ Shows relationship.shownNames row := by
  obtain ⟨source, target, cardinality, junction, origin⟩ := relationship
  have labels := And.intro (isShowable_cardinality cardinality) (isShowable_origin origin)
  refine ⟨[source.qualifiedName, target.qualifiedName, cardinality.label,
    if (Value.ofText? junction).isGiven then junction.getD [] else ['-'], origin.label], ?_, Nat.le_refl 5, ?_⟩
  · cases junction with
    | none => rfl
    | some name => cases name <;> rfl
  · cases junction with
    | none => constructor <;> simp [Relationship.shownNames, Value.ofText?, isShowable_dash, labels]
    | some name =>
        cases name with
        | nil =>
            constructor <;>
              simp [Relationship.shownNames, Value.ofText?, Value.isGiven, isShowable_dash, isShowable_nil, labels]
        | cons c rest => constructor <;> simp [Relationship.shownNames, Value.ofText?, Value.isGiven, labels]

theorem toText_eq_ok {value : Value} (short : value.isVast = false) : value.toText = .ok value.plainText := by
  rw [Value.toText, short]
  rfl

theorem exists_statementNumber (index : Option Nat)
    (counted : ∀ place, index = some place → place + 1 < 10 ^ Text.digitLimit) :
    ∃ number, statementNumber (.ofNat? index) = .ok number ∧ IsShowable number := by
  cases index with
  | none => exact ⟨['-'], rfl, isShowable_dash⟩
  | some place =>
      have short : (Value.int ((place + 1 : Nat) : Int)).isVast = false := by
        have few := counted place rfl
        unfold Value.isVast
        generalize Text.digitLimit = limit at few ⊢
        exact decide_eq_false (Nat.not_le.mpr few)
      have read : statementNumber (.ofNat? (some place)) =
          (Value.toText (.int ((place + 1 : Nat) : Int))).mapError .access := rfl
      exact ⟨numberText (place + 1), by rw [read, toText_eq_ok short]; rfl, isShowable_numberText _⟩

theorem diagnosticRow_stored (diagnostic : Diagnostic)
    (counted : ∀ index, diagnostic.statementIndex = some index → index + 1 < 10 ^ Text.digitLimit) :
    ∃ row, diagnosticRow diagnostic.stored = .ok row ∧ row.length ≤ 3 ∧
      Shows [Layout.Markup.escape diagnostic.message] row := by
  obtain ⟨number, read, numberShows⟩ := exists_statementNumber diagnostic.statementIndex counted
  have severity : IsShowable diagnostic.severity.label := by
    cases diagnostic.severity <;> exact isShowable_of_ordinary (by decide)
  refine ⟨[number, diagnostic.severity.label, Layout.Markup.escape diagnostic.message],
    bind_eq_ok.mpr ⟨number, read, rfl⟩, Nat.le_refl 3, ?_⟩
  constructor <;> simp [numberShows, severity]

variable {result : Result}

theorem tables_printed (result : Result) :
    ((∀ table ∈ result.tables, ∀ name ∈ table.shownNames, IsShowable name) →
      ∃ text, tables result.stored = .ok text) ∧
    ∀ text, tables result.stored = .ok text →
      ∀ table ∈ result.tables, ∀ name ∈ table.shownNames, IsSound name := by
  have keys : result.stored.junctionTables.forM checkKey = .ok () :=
    forM_eq_ok (List.forall_mem_map.mpr fun name _ => rfl)
  have rows : tables result.stored =
      ((result.tables.map Table.stored).mapM (tableRow result.stored.junctionTables) >>=
        grid "Tables"
          [("Table", .left), ("Columns", .right), ("PK", .left), ("FKs", .right), ("Junction", .left)]) := by
    rw [tables, keys]
    rfl
  rw [rows]
  exact rows_printed (by decide) (by decide) fun table _ => tableRow_stored _ table

theorem relationships_printed (result : Result) :
    ((∀ link ∈ result.relationships, ∀ name ∈ link.shownNames, IsShowable name) →
      ∃ text, relationships result.stored = .ok text) ∧
    ∀ text, relationships result.stored = .ok text →
      ∀ link ∈ result.relationships, ∀ name ∈ link.shownNames, IsSound name := by
  cases links : result.relationships with
  | nil =>
      refine ⟨fun _ => ⟨"\nNo relationships found.\n".toList, ?_⟩, fun _ _ => nofun⟩
      rw [relationships, Result.stored, links]
      rfl
  | cons link rest =>
      have rows : relationships result.stored = (((link :: rest).map Relationship.stored).mapM relationshipRow >>=
          grid "Relationships"
            [("From", .left), ("To", .left), ("Cardinality", .left), ("Via", .left), ("Origin", .left)]) := by
        rw [relationships, Result.stored, links]
        rfl
      rw [rows]
      exact rows_printed (by decide) (by decide) fun link _ => relationshipRow_stored link

theorem exists_diagnostics (messages : ∀ shown ∈ result.diagnostics, IsEncodable (Layout.Markup.escape shown.message))
    (counted : ∀ shown ∈ result.diagnostics, ∀ index, shown.statementIndex = some index →
      index + 1 < 10 ^ Text.digitLimit) : ∃ text, diagnostics result.stored = .ok text := by
  cases notes : result.diagnostics with
  | nil =>
      refine ⟨[], ?_⟩
      rw [diagnostics, Result.stored, notes]
      rfl
  | cons note rest =>
      rw [notes] at messages counted
      have rows : diagnostics result.stored = (((note :: rest).map Diagnostic.stored).mapM diagnosticRow >>=
          grid "Diagnostics" [("Statement", .right), ("Severity", .left), ("Message", .left)]) := by
        rw [diagnostics, Result.stored, notes]
        rfl
      rw [rows]
      refine (rows_printed (by decide) (by decide) fun shown member =>
        diagnosticRow_stored shown (counted shown member)).1 fun shown member => ?_
      exact List.forall_mem_singleton.mpr ⟨Layout.Markup.isSound_escape _, messages shown member⟩

/-- Messages are escaped, so only the names decide over the markup of a report. -/
theorem exists_sections (names : ∀ name ∈ result.shownNames, IsShowable name)
    (messages : ∀ shown ∈ result.diagnostics, IsEncodable (Layout.Markup.escape shown.message))
    (counted : ∀ shown ∈ result.diagnostics, ∀ index, shown.statementIndex = some index →
      index + 1 < 10 ^ Text.digitLimit) :
    ∀ part ∈ sections result.stored, ∃ text, part = .ok text := by
  simp only [Result.shownNames, List.forall_mem_append, List.forall_mem_flatMap] at names
  simp only [sections, List.forall_mem_cons]
  exact ⟨(tables_printed result).1 names.1, (relationships_printed result).1 names.2,
    exists_diagnostics messages counted, ⟨_, rfl⟩, nofun⟩

theorem isSound_of_sections (printed : ∀ part ∈ sections result.stored, ∃ text, part = .ok text) :
    ∀ name ∈ result.shownNames, IsSound name := by
  simp only [sections, List.forall_mem_cons] at printed
  obtain ⟨⟨tables, tabled⟩, ⟨links, linked⟩, _⟩ := printed
  simp only [Result.shownNames, List.forall_mem_append, List.forall_mem_flatMap]
  exact ⟨(tables_printed result).2 tables tabled, (relationships_printed result).2 links linked⟩

end Report

end Schemata
