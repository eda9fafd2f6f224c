import Schemata.Yaml.Gap
import Schemata.Yaml.Implicit
import Schemata.Yaml.Scalar

/-!
Scalars as they are read: plain ones and those in single and in double quotes.
-/

namespace Schemata.Yaml

def isFlowMark (c : Char) : Bool :=
  c == ',' || c == '[' || c == ']' || c == '\x7b' || c == '\x7d'

def flowMarkNext : Text → Bool
  | [] => false
  | c :: _ => isFlowMark c

/-- A plain scalar can begin here. -/
def startsPlain (inFlow : Bool) : Text → Bool
  | [] => false
  | c :: rest =>
      if c == '-' then !separatedNext rest
      else if c == '?' || c == ':' then !inFlow && !separatedNext rest
      else !isIndicator c && !isSeparator c

/-- The characters up to the end of a part of a plain scalar. -/
def plainRun (inFlow : Bool) : Text → Text × Text
  | [] => ([], [])
  | c :: rest =>
      if isSeparator c || (c == ':' && (separatedNext rest || (inFlow && flowMarkNext rest))) ||
          (inFlow && (isFlowMark c || c == '?')) then ([], c :: rest)
      else
        let (part, left) := plainRun inFlow rest
        (c :: part, left)

/-- The parts of a plain scalar and the white space between them. Lines that stand further out than
`indent` do not belong to it. -/
def plainParts (inFlow : Bool) (indent : Int) : Nat → Text → Text × Text
  | 0, s => ([], s)
  | count + 1, s =>
      if s.head? = some '#' then ([], s)
      else
        let (part, after) := plainRun inFlow s
        if part.isEmpty then ([], s)
        else
          let gap := plainGap after
          let outside := match gap.column with
            | some column => !inFlow && (column : Int) < indent
            | none => false
          if gap.text.isEmpty || outside then (part, after)
          else
            let (others, left) := plainParts inFlow indent count gap.left
            if others.isEmpty then (part, after) else (part ++ gap.text ++ others, left)

/-- The text of a plain scalar and what follows it. -/
def readPlain (inFlow : Bool) (indent : Int) (s : Text) : Text × Text :=
  plainParts inFlow indent s.length s

/-- The inside of a single-quoted scalar, after its opening quote. -/
def singleParts : Nat → Text → Except ReadError (Text × Text)
  | 0, _ => throw .malformed
  | _ + 1, [] => throw .malformed
  | count + 1, c :: rest => do
      if c = '\'' then
        match rest with
        | '\'' :: more =>
            let (s, left) ← singleParts count more
            return ('\'' :: s, left)
        | _ => return ([], rest)
      else if isSeparator c then
        let (gap, left) ← ReadError.required (quotedGap (c :: rest))
        let (s, left) ← singleParts count left
        return (gap ++ s, left)
      else
        let (s, left) ← singleParts count rest
        return (c :: s, left)

/-- The number that a fixed count of hexadecimal digits spells. -/
def hexNumber (count : Nat) (s : Text) : Option (Nat × Text) :=
  let digits := s.take count
  if digits.length = count && digits.all Text.isHexDigit then some (Text.inBase 16 digits, s.drop count)
  else none

/-- The character that an escape names by its code point. -/
def codeEscape (count : Nat) (s : Text) : Except ReadError (Text × Text) := do
  let (n, left) ← ReadError.required (hexNumber count s)
  if 0x7fffffff < n then throw (.scalar .beyondWords)
  else if 0x10ffff < n then throw (.scalar .beyondCodePoints)
  else return ([Text.charOf n], left)

def letterEscape? (c : Char) : Option Nat :=
  if c = '\t' then some 9
  else if c = ' ' then some 32
  else if c = '/' then some 47
  else (letterEscapes.find? fun (_, letter) => letter == c).map (·.1)

/-- What an escape stands for, after its backslash; an escaped line break stands for nothing. -/
def readEscape : Text → Except ReadError (Text × Text)
  | [] => throw .malformed
  | c :: rest =>
      match letterEscape? c with
      | some n => return ([Text.charOf n], rest)
      | none =>
          if c = 'x' then codeEscape 2 rest
          else if c = 'u' then codeEscape 4 rest
          else if c = 'U' then codeEscape 8 rest
          else if isBreak c then ReadError.required (quotedLines true rest)
          else throw .malformed

/-- The inside of a double-quoted scalar, after its opening quote. -/
def doubleParts : Nat → Text → Except ReadError (Text × Text)
  | 0, _ => throw .malformed
  | _ + 1, [] => throw .malformed
  | count + 1, c :: rest => do
      if c = '"' then return ([], rest)
      let (part, left) ←
        if c = '\\' then readEscape rest
        else if isSeparator c then ReadError.required (quotedGap (c :: rest))
        else pure ([c], rest)
      let (others, left) ← doubleParts count left
      return (part ++ others, left)

/-- A quoted scalar, after its opening quote. -/
def readQuoted (quote : Char) (s : Text) : Except ReadError (Text × Text) :=
  if quote = '"' then doubleParts (s.length + 1) s else singleParts (s.length + 1) s

end Schemata.Yaml
