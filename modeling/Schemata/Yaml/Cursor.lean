import Schemata.Yaml.Gap

/-!
A place in a document: its line and column, and the text from there on.
-/

namespace Schemata.Yaml

structure Cursor where
  line : Nat
  column : Nat
  rest : Text
deriving Repr

namespace Cursor

def start (s : Text) : Cursor := ⟨0, 0, s⟩

/-- The place after a character. -/
def after (cursor : Cursor) (c : Char) (rest : Text) : Cursor :=
  if isBreak c then ⟨cursor.line + 1, 0, rest⟩
  else if c == '\ufeff' then ⟨cursor.line, cursor.column, rest⟩
  else ⟨cursor.line, cursor.column + 1, rest⟩

/-- The place `count` characters further on. -/
def forward (cursor : Cursor) : Nat → Cursor
  | 0 => cursor
  | count + 1 =>
      match cursor.rest with
      | [] => cursor
      | c :: rest => forward (cursor.after c rest) count

/-- The place at which the given end of the text begins. -/
def reaching (cursor : Cursor) (left : Text) : Cursor :=
  cursor.forward (cursor.rest.length - left.length)

/-- Passes over blanks, comments and line breaks. -/
def skipFrom (line column : Nat) (inComment : Bool) : Text → Cursor
  | [] => ⟨line, column, []⟩
  | c :: rest =>
      if isBreak c then skipFrom (line + 1) 0 false rest
      else if inComment || c == '#' then skipFrom line (column + 1) true rest
      else if c == ' ' then skipFrom line (column + 1) false rest
      else ⟨line, column, c :: rest⟩

/-- The next place that is neither white space nor comment. -/
def next (cursor : Cursor) : Cursor :=
  skipFrom cursor.line cursor.column false cursor.rest

def isMarker (cursor : Cursor) : Bool :=
  cursor.column == 0 && startsMarker cursor.rest

/-- The document ends here. -/
def isEnd (cursor : Cursor) : Bool :=
  cursor.rest.isEmpty || cursor.isMarker

/-- The character here stands alone, before a separator. -/
def isMark (cursor : Cursor) (c : Char) : Bool :=
  match cursor.rest with
  | d :: rest => d == c && separatedNext rest
  | [] => false

def isAt (cursor : Cursor) (c : Char) : Bool :=
  cursor.rest.head? == some c

end Cursor

end Schemata.Yaml
