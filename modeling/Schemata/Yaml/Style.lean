import Schemata.Yaml.Class
import Schemata.Yaml.Implicit

/-!
The style in which a text is written: plain if it reads back as the same text, in single quotes if
these need no escapes, and in double quotes otherwise.
-/

namespace Schemata.Yaml

inductive Style
  | plain
  | singleQuoted
  | doubleQuoted
deriving DecidableEq, Repr

/-- Characters that only an escape can show. -/
def needsEscape (c : Char) : Bool :=
  !(c == '\n' || (32 ≤ c.toNat && c.toNat ≤ 126))

/-- The first character has a meaning of its own at the beginning of a scalar. -/
def startsWithIndicator : Text → Bool
  | [] => false
  | c :: rest =>
      isIndicator c || ((c == '?' || c == ':' || c == '-') && separatedNext rest)

/-- After the first character, a colon before a separator or a number sign after one. -/
def holdsIndicator (afterSeparator : Bool) : Text → Bool
  | [] => false
  | c :: rest =>
      (c == ':' && separatedNext rest) || (c == '#' && afterSeparator) ||
        holdsIndicator (isSeparator c) rest

def startsWithMarker (s : Text) : Bool :=
  "---".toList.isPrefixOf s || "...".toList.isPrefixOf s

/-- Some character would be taken for an indicator outside quotes. -/
def hasIndicator (s : Text) : Bool :=
  startsWithMarker s || startsWithIndicator s ||
    match s with
    | [] => false
    | c :: rest => holdsIndicator (isSeparator c) rest

def isSpace (c : Char) : Bool := c == ' '

/-- Two neighbours of which the first and the second are of the given kinds. -/
def hasNeighbours (first second : Char → Bool) : Text → Bool
  | a :: b :: rest => (first a && second b) || hasNeighbours first second (b :: rest)
  | _ => false

def mayBePlain (s : Text) : Bool :=
  !s.isEmpty && !s.any needsEscape && !s.any isBreak && s.head? != some ' ' &&
    s.getLast? != some ' ' && !hasIndicator s && (implicitKind? s).isNone

def mayBeSingleQuoted (s : Text) : Bool :=
  !s.any needsEscape && !hasNeighbours isSpace isBreak s && !hasNeighbours isBreak isSpace s

def styleOf (s : Text) : Style :=
  if mayBePlain s then .plain
  else if mayBeSingleQuoted s then .singleQuoted
  else .doubleQuoted

end Schemata.Yaml
