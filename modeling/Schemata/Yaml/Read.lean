import Schemata.Yaml.Cursor
import Schemata.Yaml.Node
import Schemata.Yaml.ReadScalar

/-!
Documents read from YAML: scalars, lists and mappings in flow and in block style, keys behind
question marks, comments, and document markers around one document. This is the part of YAML that
files of options and schemas are written in: at a tag, an anchor, an alias, a block scalar or a
directive the reader says that it does not cover it. What is read ends right after its last
character.
-/

namespace Schemata.Yaml

/-- What has been read, and the place right after it. -/
abbrev Ended (α : Type) := α × Cursor

/-- The longest distance between the beginning of a key and its colon. -/
def keyLimit : Nat := 1024

/-- A key without a question mark stands on one line with its colon. -/
def isKeyPlace (start colon : Cursor) : Bool :=
  start.line == colon.line && start.rest.length - colon.rest.length ≤ keyLimit

/-- A tag, an anchor or an alias begins here, or, outside brackets, a block scalar or a directive. -/
def startsOther (inFlow : Bool) (column : Nat) (c : Char) : Bool :=
  c == '!' || c == '&' || c == '*' || (!inFlow && (c == '|' || c == '>')) || (column == 0 && c == '%')

def readScalar (inFlow : Bool) (indent : Int) (cursor : Cursor) : Except ReadError (Ended Node) :=
  match cursor.rest with
  | [] => throw .malformed
  | c :: rest => do
      if c = '"' || c = '\'' then
        let (s, left) ← readQuoted c rest
        return (.quoted s, cursor.reaching left)
      else if startsPlain inFlow (c :: rest) && !cursor.isMarker then
        let (s, left) := readPlain inFlow indent (c :: rest)
        return (.plain s, cursor.reaching left)
      else if startsOther inFlow cursor.column c then throw .notCovered
      else throw .malformed

/-- An entry between brackets or braces: a node, and what follows its colon. -/
structure FlowEntry where
  key : Node
  value : Option Node

namespace FlowEntry

/-- An entry of a list; with a colon it is a mapping of its own. -/
def item (entry : FlowEntry) : Node :=
  match entry.value with
  | some value => .map [(entry.key, value)]
  | none => entry.key

/-- An entry of a mapping. -/
def pair (entry : FlowEntry) : Node × Node :=
  (entry.key, entry.value.getD .absent)

end FlowEntry

mutual

/-- A node inside brackets or braces. -/
def flowNode : Nat → Cursor → Except ReadError (Ended Node)
  | 0, _ => throw .malformed
  | fuel + 1, cursor => do
      if cursor.isAt '[' then
        let (entries, after) ← flowEntries fuel ']' true (cursor.forward 1).next
        return (.list (entries.map FlowEntry.item), after)
      else if cursor.isAt '\x7b' then
        let (entries, after) ← flowEntries fuel '\x7d' true (cursor.forward 1).next
        return (.map (entries.map FlowEntry.pair), after)
      else readScalar true 0 cursor

/-- A node that may be missing before a mark that ends it. -/
def flowPart : Nat → List Char → Cursor → Except ReadError (Ended Node)
  | 0, _, _ => throw .malformed
  | fuel + 1, ends, cursor =>
      if ends.any cursor.isAt then return (.absent, cursor) else flowNode fuel cursor

/-- The part of an entry after its key, if a colon follows. -/
def flowValue : Nat → Char → Cursor → Except ReadError (Ended (Option Node))
  | 0, _, _ => throw .malformed
  | fuel + 1, closing, cursor => do
      let colon := cursor.next
      if colon.isAt ':' then
        let (value, after) ← flowPart fuel [',', closing] (colon.forward 1).next
        return (some value, after)
      else return (none, cursor)

/-- An entry. Behind a question mark the key may be missing, and its colon may stand anywhere. -/
def flowEntry : Nat → Char → Cursor → Except ReadError (Ended FlowEntry)
  | 0, _, _ => throw .malformed
  | fuel + 1, closing, cursor => do
      if cursor.isAt '?' then
        let (key, after) ← flowPart fuel [':', ',', closing] (cursor.forward 1).next
        let (value, after) ← flowValue fuel closing after
        return (⟨key, some (value.getD .absent)⟩, after)
      else
        let (key, after) ← flowNode fuel cursor
        let colon := after.next
        if colon.isAt ':' && !isKeyPlace cursor colon then throw .malformed
        let (value, after) ← flowValue fuel closing after
        return (⟨key, value⟩, after)

/-- The entries up to a closing mark, with commas between them. -/
def flowEntries : Nat → Char → Bool → Cursor → Except ReadError (Ended (List FlowEntry))
  | 0, _, _, _ => throw .malformed
  | fuel + 1, closing, first, cursor => do
      if cursor.isAt closing then return ([], cursor.forward 1)
      if !first && !cursor.isAt ',' then throw .malformed
      let place := if first then cursor else (cursor.forward 1).next
      if place.isAt closing then return ([], place.forward 1)
      let (entry, after) ← flowEntry fuel closing place
      let (others, after) ← flowEntries fuel closing false after.next
      return (entry :: others, after)

end

/-- A scalar or a flow collection in a block whose parent stands at column `parent`. -/
def blockLeaf (fuel : Nat) (parent : Int) (cursor : Cursor) : Except ReadError (Ended Node) :=
  if cursor.isAt '[' || cursor.isAt '\x7b' then flowNode fuel cursor
  else readScalar false (parent + 1) cursor

mutual

/-- The node that begins here. A block collection may begin only where `opens` tells so: on a new
line, or after a dash or the mark of a key or value that stands alone. Nothing else may stand on
the line on which a leaf ends. -/
def blockNode : Nat → Int → Bool → Cursor → Except ReadError (Ended Node)
  | 0, _, _, _ => throw .malformed
  | fuel + 1, parent, opens, cursor => do
      if cursor.isMark '-' then
        if !opens then throw .malformed
        let (items, after) ← blockItems fuel cursor.column false cursor
        return (.list items, after)
      else if cursor.isMark '?' then
        if !opens then throw .malformed
        let (entries, after) ← blockEntries fuel cursor.column cursor
        return (.map entries, after)
      else
        let (node, after) ← blockLeaf fuel parent cursor
        let following := after.next
        if following.rest.isEmpty || after.line < following.line then return (node, after)
        else if following.isMark ':' && opens && isKeyPlace cursor following then
          let (entries, after) ← blockEntries fuel cursor.column cursor
          return (.map entries, after)
        else throw .malformed

/-- The items of a list with dashes at a column. Below a key of the same column the list ends at
the next key. -/
def blockItems : Nat → Nat → Bool → Cursor → Except ReadError (Ended (List Node))
  | 0, _, _, _ => throw .malformed
  | fuel + 1, column, belowKey, cursor => do
      let mark := cursor.forward 1
      let place := mark.next
      let (item, after) ←
        if place.isEnd || (cursor.line < place.line && place.column ≤ column) then
          pure (.absent, mark)
        else blockNode fuel column true place
      let following := after.next
      if following.isEnd || following.column < column then return ([item], after)
      if column < following.column then throw .malformed
      if following.isMark '-' then
        let (others, after) ← blockItems fuel column belowKey following
        return (item :: others, after)
      if belowKey then return ([item], after) else throw .malformed

/-- The entries of a mapping with keys at a column. -/
def blockEntries : Nat → Nat → Cursor → Except ReadError (Ended (List (Node × Node)))
  | 0, _, _ => throw .malformed
  | fuel + 1, column, cursor => do
      let (entry, after) ← blockEntry fuel column cursor
      let following := after.next
      if following.isEnd || following.column < column then return ([entry], after)
      if column < following.column || following.isMark '-' then throw .malformed
      let (others, after) ← blockEntries fuel column following
      return (entry :: others, after)

/-- The entry that begins here. Behind a question mark the key is any node, and the mark of its
value stands below the question mark, or is missing. -/
def blockEntry : Nat → Nat → Cursor → Except ReadError (Ended (Node × Node))
  | 0, _, _ => throw .malformed
  | fuel + 1, column, cursor => do
      if cursor.isMark '?' then
        let (key, after) ← blockField fuel column true (cursor.forward 1)
        let colon := after.next
        if colon.isMark ':' && colon.column == column then
          let (value, after) ← blockField fuel column true (colon.forward 1)
          return ((key, value), after)
        else return ((key, .absent), after)
      else
        let (key, after) ← blockLeaf fuel column cursor
        let colon := after.next
        if !(colon.isMark ':' && isKeyPlace cursor colon) then throw .malformed
        let (value, after) ← blockField fuel column false (colon.forward 1)
        return ((key, value), after)

/-- What follows the mark of a key or a value at a column; a block collection may begin on its line
only where `opens` tells so. -/
def blockField : Nat → Nat → Bool → Cursor → Except ReadError (Ended Node)
  | 0, _, _, _ => throw .malformed
  | fuel + 1, column, opens, cursor => do
      let place := cursor.next
      if place.isEnd then return (.absent, cursor)
      else if place.line == cursor.line then blockNode fuel column opens place
      else if column < place.column then blockNode fuel column true place
      else if place.column == column && place.isMark '-' then
        let (items, after) ← blockItems fuel column true place
        return (.list items, after)
      else return (.absent, cursor)

end

/-- Nothing but end markers and comments is left; each marker takes a line. -/
def endsHere : Nat → Cursor → Bool
  | 0, cursor => cursor.rest.isEmpty
  | count + 1, cursor =>
      cursor.rest.isEmpty ||
        (cursor.isMarker && cursor.isAt '.' && endsHere count (cursor.forward 3).next)

/-- The node of a document. -/
def nodeOf (s : Text) : Except ReadError Node := do
  if !s.all isAllowed then throw .malformed
  let s := if s.head? = some '\ufeff' then s.drop 1 else s
  let fuel := 4 * s.length + 8
  let first := (Cursor.start s).next
  let marked := first.isMarker && first.isAt '-'
  let place := if marked then (first.forward 3).next else first
  let (node, after) ←
    if marked && place.isEnd || place.rest.isEmpty then pure (.absent, place)
    else blockNode fuel (-1) (!marked || first.line < place.line) place
  if endsHere s.length after.next then return node else throw .malformed

/-- The value of a document. -/
def read (s : Text) : Except ReadError Value := do
  (← nodeOf s).value

end Schemata.Yaml
