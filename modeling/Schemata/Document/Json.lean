import Schemata.Document.Value

/-!
Documents written as JSON: two blanks of indentation for each level, and ASCII characters only.
-/

namespace Schemata.Json

/-- The escape of one unit of sixteen bits. -/
def unitEscape (n : Nat) : Text :=
  "\\u".toList ++ Text.hexDigits 4 n

/-- A code point beyond the sixteen-bit ones is written as a surrogate pair. -/
def pointEscape (n : Nat) : Text :=
  if n < 0x10000 then unitEscape n
  else unitEscape (0xd800 + (n - 0x10000) / 0x400) ++ unitEscape (0xdc00 + (n - 0x10000) % 0x400)

def escapedChar (c : Char) : Text :=
  if c = '"' then "\\\"".toList
  else if c = '\\' then "\\\\".toList
  else if c = '\n' then "\\n".toList
  else if c = '\r' then "\\r".toList
  else if c = '\t' then "\\t".toList
  else if c = '\x08' then "\\b".toList
  else if c = '\x0c' then "\\f".toList
  else if 32 ≤ c.toNat ∧ c.toNat < 127 then [c]
  else pointEscape (Text.codeOf c)

def quoted (s : Text) : Text :=
  '"' :: s.flatMap escapedChar ++ ['"']

def floatText : Double → Text
  | .nan => "NaN".toList
  | .infinite negative => Double.sign negative ++ "Infinity".toList
  | x => x.text

/-- A value that is neither a list nor a mapping. -/
def scalarText : Value → Text
  | .bool b => if b then "true".toList else "false".toList
  | .int n => Value.integerText n
  | .float x => floatText x
  | .text s => quoted s
  | _ => "null".toList

/-- Keys are texts; other scalars are quoted in their written form. -/
def keyText : Value → Text
  | .text s => quoted s
  | key => quoted (scalarText key)

/-- A new line at a level. -/
def line (level : Nat) : Text :=
  '\n' :: List.replicate (2 * level) ' '

mutual

def write (level : Nat) : Value → Text
  | .list [] => "[]".toList
  | .list (value :: rest) =>
      '[' :: line (level + 1) ++ write (level + 1) value ++ writeItems (level + 1) rest ++
        line level ++ [']']
  | .map [] => "\x7b\x7d".toList
  | .map ((key, value) :: rest) =>
      '\x7b' :: line (level + 1) ++ keyText key ++ ": ".toList ++ write (level + 1) value ++
        writeEntries (level + 1) rest ++ line level ++ ['\x7d']
  | scalar => scalarText scalar

def writeItems (level : Nat) : List Value → Text
  | [] => []
  | value :: rest => ',' :: line level ++ write level value ++ writeItems level rest

def writeEntries (level : Nat) : List (Value × Value) → Text
  | [] => []
  | (key, value) :: rest =>
      ',' :: line level ++ keyText key ++ ": ".toList ++ write level value ++ writeEntries level rest

end

/-- The text of a document. -/
def render (document : Value) : Text :=
  write 0 document

end Schemata.Json
