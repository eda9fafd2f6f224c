import Schemata.Layout.Width
import Schemata.Text.Blank

/-!
Breaking lines between words, and placing them in a column.
-/

namespace Schemata.Layout

inductive Alignment
  | left
  | right
deriving DecidableEq, Repr

/-- What becomes of a word that is wider than a line: it goes on in the next line, or its line is
cut and ends in an ellipsis. -/
inductive Overflow
  | fold
  | ellipsis
deriving DecidableEq, Repr

/-- The least multiple of eight that is not below a column. -/
def tabStop (column : Nat) : Nat :=
  (column + 7) / 8 * 8

/-- Parts of a line with tabs between them. A tab is one blank at least and leads to the next
multiple of eight columns. -/
def joinTabs (column : Nat) : List Text → Text
  | [] => []
  | [part] => part
  | part :: rest =>
      let reached := column + width (part ++ [' '])
      part ++ ' ' :: blanks (tabStop reached - reached) ++ joinTabs (tabStop reached) rest

def expandTabs (line : Text) : Text :=
  joinTabs 0 (line.splitOn '\t')

/-- The words of a line with the white space after each; the first one takes that before it too. -/
def wordsOf : Nat → Text → List Text
  | 0, _ => []
  | count + 1, s =>
      let (before, rest) := s.span Text.isBlank
      if rest.isEmpty then []
      else
        let (word, rest) := rest.span fun c => !Text.isBlank c
        let (after, rest) := rest.span Text.isBlank
        (before ++ word ++ after) :: wordsOf count rest

/-- Clusters put together into parts that fit a line each; `part` is what the line holds so far, and
`used` the columns that it takes. -/
def chopped (room used : Nat) (part : Text) : List Cluster → List Text
  | [] => if used = 0 then [] else [part]
  | cluster :: rest =>
      if room < used + cluster.width then part :: chopped room cluster.width cluster.text rest
      else chopped room (used + cluster.width) (part ++ cluster.text) rest

/-- The lines so far, the line that is being filled, and the columns that are taken in it. -/
structure Filling where
  lines : List Text := []
  line : Text := []
  used : Nat := 0

namespace Filling

/-- Ends the line, unless nothing stands before its end. -/
def startLine (filling : Filling) (part : Text) (used : Nat) : Filling :=
  if filling.lines.isEmpty && filling.line.isEmpty then ⟨[], part, used⟩
  else ⟨filling.lines ++ [filling.line], part, used⟩

/-- Adds a word where it fits, and in a new line otherwise. -/
def add (room : Nat) (overflow : Overflow) (filling : Filling) (word : Text) : Filling :=
  let size := width (Text.trimRight word)
  if filling.used + size ≤ room then
    { filling with line := filling.line ++ word, used := filling.used + width word }
  else if room < size then
    match overflow with
    | .fold =>
        (chopped room 0 [] (clusters word)).foldl
          (fun filling part => filling.startLine part (width part)) filling
    | .ellipsis => filling.startLine word (width word)
  else if filling.used = 0 || (filling.lines.isEmpty && filling.line.isEmpty) then
    { filling with line := filling.line ++ word }
  else filling.startLine word (width word)

end Filling

/-- Takes white space off the end of a line as far as it is too long. -/
def withoutExcess (room : Nat) (line : Text) : Text :=
  let trailing := line.length - (Text.trimRight line).length
  line.take (line.length - min trailing (line.length - room))

/-- Cuts a line that is too wide. -/
def truncated (room : Nat) (overflow : Overflow) (line : Text) : Text :=
  if width line ≤ room then line
  else
    match overflow with
    | .fold => fitted room line
    | .ellipsis => fitted (room - 1) line ++ ['…']

/-- The lines into which a line is broken. -/
def brokenLine (room : Nat) (overflow : Overflow) (line : Text) : List Text :=
  let line := expandTabs line
  match wordsOf (line.length + 1) line with
  | [] => [withoutExcess room line]
  | words =>
      let filling := words.foldl (Filling.add room overflow) {}
      (filling.lines ++ [filling.line]).map (withoutExcess room)

/-- The lines of a text, broken to `room` columns. -/
def wrapped (room : Nat) (overflow : Overflow) (s : Text) : List Text :=
  ((s.splitOn '\n').flatMap (brokenLine room overflow)).map (truncated room overflow)

/-- A line in a column of `room` columns. -/
def aligned (room : Nat) (alignment : Alignment) (line : Text) : Text :=
  match alignment with
  | .left => padded room (truncated room .ellipsis line)
  | .right =>
      let cut := truncated room .ellipsis (Text.trimRight line)
      blanks (room - width cut) ++ cut

/-- The columns of the widest line. -/
def widest (lines : List Text) : Nat :=
  lines.foldl (fun most line => max most (width line)) 0

end Schemata.Layout
