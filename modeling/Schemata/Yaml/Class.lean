import Schemata.Text.Range

/-!
The classes of characters that YAML tells apart.
-/

namespace Schemata.Yaml

/-- Characters that end a line. -/
def isBreak (c : Char) : Bool :=
  c == '\n' || c == '\x85' || c == '\u2028' || c == '\u2029'

/-- Characters that end a token: white space inside a line and line ends. -/
def isSeparator (c : Char) : Bool :=
  c == ' ' || c == '\t' || c == '\r' || isBreak c

/-- The rest of a text is at its end or goes on with a separator. -/
def separatedNext : Text → Bool
  | [] => true
  | c :: _ => isSeparator c || c == '\x00'

/-- Characters that a document may contain. -/
def isAllowed (c : Char) : Bool :=
  c == '\t' || c == '\n' || c == '\r' || (32 ≤ c.toNat && c.toNat ≤ 126) || c == '\x85' ||
    (0xa0 ≤ c.toNat && c.toNat ≤ 0xd7ff) || (0xe000 ≤ c.toNat && c.toNat ≤ 0xfffd) ||
    0x10000 ≤ c.toNat

/-- Characters with which a plain scalar cannot begin, wherever it stands. -/
def isIndicator (c : Char) : Bool :=
  ("#,[]\x7b\x7d&*!|>'\"%@\x60".toList).contains c

end Schemata.Yaml
