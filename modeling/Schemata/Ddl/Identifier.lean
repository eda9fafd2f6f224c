import Schemata.Reader
import Schemata.Script.Pieces

/-!
Identifiers: quoted with double or backward quotes, in brackets, or bare words that begin with an
ASCII letter or an underscore. A qualified name is a chain of identifiers with dots between.
-/

namespace Schemata.Ddl

open Reader

/-- Characters that begin a bare identifier. -/
def startsName (c : Char) : Bool :=
  c.isAlpha || c == '_'

/-- Characters that begin a bare identifier next to keywords, where letters that share a case with
an ASCII letter count too. -/
def startsNameAnyCase (c : Char) : Bool :=
  startsName c || Text.sameLetter 'I' c || Text.sameLetter 'S' c || Text.sameLetter 'K' c

def continuesName (c : Char) : Bool :=
  Text.isWordChar c || c == '$' || c == '#'

/-- A name between two marks; it is not empty and does not hold the closing one. -/
def delimited (opening closing : Char) : Reader Unit := do
  let _ ← char (· == opening)
  run1 (· != closing)
  let _ ← char (· == closing)

def bareName (starts : Char → Bool) : Reader Unit := do
  let _ ← char starts
  run continuesName

/-- An identifier, its quotes or brackets included. -/
def identifier (starts : Char → Bool) : Reader Unit :=
  either (delimited '"' '"')
    (either (delimited '\x60' '\x60')
      (either (delimited '[' ']') (bareName starts)))

/-- An identifier of a definition or a statement. -/
def name : Reader Unit := identifier startsNameAnyCase

/-- A chain of identifiers with dots between, and possibly white space round the dots. -/
def qualifiedName : Reader Unit := do
  name
  repeated do
    blanks
    let _ ← char (· == '.')
    blanks
    name

def opensQuoted (c : Char) : Bool :=
  c == '"' || c == '\x60' || c == '['

/-- A name without its quotes or brackets. -/
def unquoted (written : Text) : Text :=
  match written with
  | c :: rest => if opensQuoted c && !rest.isEmpty then rest.dropLast else written
  | [] => []

/-- The name that a written identifier stands for: its last component without quotes, trimmed and
in lower case. -/
def normalizeIdentifier (written : Text) : Text :=
  let trimmed := Text.trim written
  let components := (captured (identifier startsName)).all trimmed
  let last := (components.getLast?.map Span.text).getD trimmed
  Text.lower (Text.trim (unquoted last))

/-- The identifiers that begin the items of a list; items without one are passed over. -/
def columnList (list : Text) : List Text :=
  (Script.items list).filterMap fun item =>
    ((captured (identifier startsName)).first (Text.trim item)).map fun (written, _) =>
      normalizeIdentifier written.text

end Schemata.Ddl
