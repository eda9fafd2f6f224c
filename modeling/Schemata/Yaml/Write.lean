import Schemata.Yaml.Scalar

/-!
Documents written as YAML in block style. The dashes of a list stand below the key that the list
belongs to, and the entries of a mapping two columns further in. A key that is not simple stands after
a question mark, and its value after a colon on a line of its own.
-/

namespace Schemata.Yaml

def blanks (count : Nat) : Text :=
  List.replicate count ' '

/-- A value that fits on the line of its key or dash. -/
def inline (indent column : Nat) : Value → Option Text
  | .null => some "null".toList
  | .bool b => some (if b then "true".toList else "false".toList)
  | .int n => some (Value.integerText n)
  | .float x => some (floatText x)
  | .day d => some d.text
  | .moment m => some m.text
  | .text s => some (scalar indent column s)
  | .list [] => some "[]".toList
  | .map [] => some "\x7b\x7d".toList
  | _ => none

/-- The tag of the kind of a scalar. -/
def tag : Value → Text
  | .null => "!!null".toList
  | .bool _ => "!!bool".toList
  | .int _ => "!!int".toList
  | .float _ => "!!float".toList
  | .day _ => "!!timestamp".toList
  | .moment _ => "!!timestamp".toList
  | _ => "!!str".toList

/-- A key that stands before its colon on one line. It may not be empty or hold line breaks, and
with its tag it is shorter than 128 characters. -/
def isSimpleKey (key : Value) : Bool :=
  let written := match key with
    | .text s => s
    | other => (inline 0 0 other).getD []
  !written.isEmpty && !written.any isBreak && written.length + (tag key).length < 128

def keyText : Value → Text
  | .text s => keyScalar s
  | key => (inline 0 0 key).getD []

mutual

/-- The lines of a list whose dashes stand at `column`; the first line begins after its blanks. -/
def writeItems (column : Nat) (first : Bool) : List Value → Text
  | [] => []
  | value :: rest =>
      (if first then [] else blanks column) ++ "- ".toList ++ writeItem column value ++
        writeItems column false rest

/-- The part after a dash, or after the mark of a key or a value that stands alone. -/
def writeItem (column : Nat) : Value → Text
  | .list (value :: rest) => writeItems (column + 2) true (value :: rest)
  | .map (entry :: rest) => writeEntries (column + 2) true (entry :: rest)
  | value => (inline (column + 2) (column + 2) value).getD [] ++ ['\n']

/-- The lines of a mapping whose keys stand at `column`. -/
def writeEntries (column : Nat) (first : Bool) : List (Value × Value) → Text
  | [] => []
  | (key, value) :: rest =>
      let name := keyText key
      (if first then [] else blanks column) ++
        (if isSimpleKey key then
          name ++ ':' :: writeField column (column + name.length + 2) value
        else
          "? ".toList ++ writeItem column key ++ blanks column ++ ": ".toList ++
            writeItem column value) ++
        writeEntries column false rest

/-- The part of a mapping entry after its colon. -/
def writeField (column place : Nat) : Value → Text
  | .list (value :: rest) => '\n' :: blanks column ++ writeItems column true (value :: rest)
  | .map (entry :: rest) => '\n' :: blanks (column + 2) ++ writeEntries (column + 2) true (entry :: rest)
  | value => ' ' :: (inline (column + 2) place value).getD [] ++ ['\n']

end

/-- The text of a document. -/
def render : Value → Text
  | .list (value :: rest) => writeItems 0 true (value :: rest)
  | .map (entry :: rest) => writeEntries 0 true (entry :: rest)
  | value => (inline 2 0 value).getD [] ++ ['\n']

end Schemata.Yaml
