import Schemata.Layout.Markup
import Schemata.Layout.Wrap

/-!
Tables of cells in boxes. Each column is as wide as its widest cell; a table that is too wide for
the screen takes the room from its widest columns.
-/

namespace Schemata.Layout

/-- The columns of the screen. -/
def screen : Nat := 200

structure Heading where
  title : Text
  alignment : Alignment := .left
deriving DecidableEq, Repr

/-- A table; its cells are texts with markup. -/
structure Grid where
  title : Text
  headings : List Heading
  rows : List (List Text)
deriving DecidableEq, Repr

namespace Grid

/-- Characters that end a line when the width of a cell is measured. -/
def endsLine (c : Char) : Bool :=
  [0x0a, 0x1c, 0x1d, 0x1e, 0x85, 0x2028, 0x2029].contains c.toNat

/-- The columns that a cell asks for, with a blank on either side. -/
def cellWidth (available : Nat) (cell : Text) : Nat :=
  min available (min available (widest (cell.splitOnP endsLine)) + 2)

/-- The widths that the cells of each column ask for. -/
def naturalWidths (available : Nat) (cells : List (List Text)) (count : Nat) : List Nat :=
  (List.range count).map fun index =>
    (cells.map fun row => cellWidth available (row[index]?.getD [])).foldl max 1

/-- The integer nearest to `total / parts`, the even one of two. -/
def evenShare (total parts : Nat) : Nat :=
  let twice := 2 * (total % parts)
  if parts < twice || (parts == twice && total / parts % 2 == 1) then total / parts + 1
  else total / parts

/-- Takes `excess` evenly from the columns of width `widest`, at most `step` from each. -/
def takeEvenly (widest step : Nat) : Nat → Nat → List Nat → List Nat
  | _, _, [] => []
  | excess, sharing, width :: rest =>
      if width = widest ∧ 0 < sharing then
        let taken := min step (evenShare excess sharing)
        (width - taken) :: takeEvenly widest step (excess - taken) (sharing - 1) rest
      else width :: takeEvenly widest step excess sharing rest

/-- Narrows the widest columns to the next width below, until the table fits. -/
def narrowed (available : Nat) : Nat → List Nat → List Nat
  | 0, widths => widths
  | count + 1, widths =>
      if total widths ≤ available then widths
      else
        let most := widths.foldl max 0
        let next := (widths.filter (· != most)).foldl max 0
        let excess := total widths - available
        narrowed available count
          (takeEvenly most (min excess (most - next)) excess (widths.count most) widths)

/-- The widths of the columns, the blanks beside their cells included. -/
def widths (cells : List (List Text)) (count : Nat) : List Nat :=
  let available := screen - (count + 1)
  narrowed available (2 * count + 2) (naturalWidths available cells count)

/-- The lines of a cell, all of the width of its column. -/
def cellLines (width : Nat) (alignment : Alignment) (cell : Text) : List Text :=
  (wrapped (width - 2) .ellipsis cell).map fun line =>
    ' ' :: padded (width - 2) (aligned (width - 2) alignment line) ++ [' ']

/-- The strokes of one kind of row: the left edge, the stroke between columns, the right edge. -/
structure Strokes where
  left : Char
  between : Char
  right : Char

def join (strokes : Strokes) (parts : List Text) : Text :=
  strokes.left :: List.intercalate [strokes.between] parts ++ [strokes.right, '\n']

/-- A line between rows. -/
def rule (strokes : Strokes) (stroke : Char) (widths : List Nat) : Text :=
  join strokes (widths.map fun width => List.replicate width stroke)

/-- The lines of a row. Cells with fewer lines are filled up, above them in the head of the table
and below them in its body. -/
def row (strokes : Strokes) (inHead : Bool) (widths : List Nat) (alignments : List Alignment)
    (cells : List Text) : Text :=
  let columns := (widths.zip (alignments.zip cells)).map fun (width, alignment, cell) =>
    (width, cellLines width alignment cell)
  let height := (columns.map fun (_, lines) => lines.length).foldl max 1
  let filled := columns.map fun (width, lines) =>
    let missing := List.replicate (height - lines.length) (blanks width)
    if inHead then missing ++ lines else lines ++ missing
  (List.range height).flatMap fun index =>
    join strokes (filled.map fun lines => lines[index]?.getD [])

/-- The title in the middle above the table. -/
def titleLine (width : Nat) (title : Text) : Text :=
  padded width (blanks ((width - Layout.width title) / 2) ++ title) ++ ['\n']

/-- The text of a table whose cells hold no markup any more. -/
def draw (grid : Grid) : Text :=
  let titles := grid.headings.map Heading.title
  let alignments := grid.headings.map Heading.alignment
  let widths := widths (titles :: grid.rows) grid.headings.length
  titleLine (total widths + widths.length + 1) grid.title ++
    rule ⟨'┏', '┳', '┓'⟩ '━' widths ++
    row ⟨'┃', '┃', '┃'⟩ true widths alignments titles ++
    rule ⟨'┡', '╇', '┩'⟩ '━' widths ++
    grid.rows.flatMap (row ⟨'│', '│', '│'⟩ false widths alignments) ++
    rule ⟨'└', '┴', '┘'⟩ '─' widths

/-- The rows of a table without their markup. Columns are read one after the other, each from its
head down, before the styles of any cell are applied. -/
def shownRows (grid : Grid) : Except MarkupError (List (List Text)) := do
  let columns ← (List.range grid.headings.length).mapM fun index =>
    grid.rows.mapM fun cells => Markup.read (cells[index]?.getD [])
  let rows := columns.foldr (List.zipWith List.cons) (List.replicate grid.rows.length [])
  rows.mapM fun cells => cells.mapM Markup.Marked.applied

/-- The text of a table. -/
def render (grid : Grid) : Except MarkupError Text := do
  return draw { grid with rows := ← grid.shownRows }

end Grid

/-- The lines of a text with markup as the screen shows it. -/
def printed (s : Text) : Except MarkupError Text := do
  return (wrapped screen .fold (← Markup.shown s)).flatMap fun line => line ++ ['\n']

end Schemata.Layout
