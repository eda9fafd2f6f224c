import Schemata.Yaml.Class

/-!
White space inside scalars. A line break between two parts reads as one blank, and further breaks
as themselves.
-/

namespace Schemata.Yaml

/-- A document marker stands at the beginning of a line. -/
def startsMarker (line : Text) : Bool :=
  ("---".toList.isPrefixOf line || "...".toList.isPrefixOf line) && separatedNext (line.drop 3)

/-- What a line break reads as. -/
def readBreak (c : Char) : Char :=
  if c == '\u2028' || c == '\u2029' then c else '\n'

/-- What a first line break and the breaks after it read as. -/
def foldedBreaks (first : Char) (others : Text) : Text :=
  if readBreak first != '\n' then readBreak first :: others
  else if others.isEmpty then [' ']
  else others

/-- White space inside a plain scalar: what it reads as, the text that is left, and the column of
the line on which it ends if that is a new one. -/
structure Gap where
  text : Text
  left : Text
  column : Option Nat

/-- Empty lines and the indentation of the line after them; at a document marker the scalar ends. -/
def emptyLines (column : Nat) : Text → Option (Text × Text × Nat)
  | [] => some ([], [], column)
  | c :: rest =>
      if column = 0 && startsMarker (c :: rest) then none
      else if c = ' ' then emptyLines (column + 1) rest
      else if isBreak c then
        (emptyLines 0 rest).map fun (breaks, left, column) => (readBreak c :: breaks, left, column)
      else some ([], c :: rest, column)

def plainGap (s : Text) : Gap :=
  let (blanks, after) := s.span (· == ' ')
  match after with
  | c :: rest =>
      if isBreak c then
        match emptyLines 0 rest with
        | some (breaks, left, column) => ⟨foldedBreaks c breaks, left, some column⟩
        | none => ⟨[], rest.dropWhile fun c => c == ' ' || isBreak c, some 0⟩
      else ⟨blanks, c :: rest, none⟩
  | [] => ⟨blanks, [], none⟩

/-- Empty lines inside quotes, tabs allowed; a document marker is refused. -/
def quotedLines (atStart : Bool) : Text → Option (Text × Text)
  | [] => some ([], [])
  | c :: rest =>
      if atStart && startsMarker (c :: rest) then none
      else if c = ' ' || c = '\t' then quotedLines false rest
      else if isBreak c then
        (quotedLines true rest).map fun (breaks, left) => (readBreak c :: breaks, left)
      else some ([], c :: rest)

/-- White space inside quotes: what it reads as and the text that is left. -/
def quotedGap (s : Text) : Option (Text × Text) :=
  let (blanks, after) := s.span fun c => c == ' ' || c == '\t'
  match after with
  | [] => none
  | c :: rest =>
      if isBreak c then
        (quotedLines true rest).map fun (breaks, left) => (foldedBreaks c breaks, left)
      else some (blanks, c :: rest)

end Schemata.Yaml
