import Schemata.Yaml.Style

/-!
Scalars as they are written, with folding: a line that has passed the width ends at the next place
where a line break reads as the blank that it replaces, or as nothing.
-/

namespace Schemata.Yaml

/-- The column up to which lines are filled. -/
def width : Nat := 80

def lineAt (indent : Nat) : Text :=
  '\n' :: List.replicate indent ' '

/-- A blank without blanks beside it. -/
def isSingleBlank (afterBlank : Bool) (c : Char) (rest : Text) : Bool :=
  c == ' ' && !afterBlank && rest.head? != some ' '

/-- A plain scalar from `column` on. -/
def plainFrom (indent column : Nat) (afterBlank : Bool) : Text → Text
  | [] => []
  | c :: rest =>
      if isSingleBlank afterBlank c rest && width < column then
        lineAt indent ++ plainFrom indent indent true rest
      else c :: plainFrom indent (column + 1) (c == ' ') rest

/-- The inside of a single-quoted scalar. A run of line breaks is written with one break more, and
quotes are doubled. -/
def singleFrom (indent column : Nat) (before : Option Char) : Text → Text
  | [] => []
  | c :: rest =>
      if c = '\n' then
        (if before = some '\n' then [] else ['\n']) ++ '\n' ::
          (if rest.head? = some '\n' then [] else List.replicate indent ' ') ++
          singleFrom indent indent (some c) rest
      else if c = '\'' then "''".toList ++ singleFrom indent (column + 2) (some c) rest
      else if isSingleBlank (before == some ' ') c rest && width < column && before.isSome &&
          !rest.isEmpty then
        lineAt indent ++ singleFrom indent indent (some c) rest
      else c :: singleFrom indent (column + 1) (some c) rest

def upperHexDigit (n : Nat) : Char :=
  if n < 10 then Char.ofNat (48 + n) else Char.ofNat (55 + n)

/-- The lowest `width` hexadecimal digits, in capitals. -/
def upperHex : Nat → Nat → Text
  | 0, _ => []
  | count + 1, n => upperHex count (n / 16) ++ [upperHexDigit (n % 16)]

/-- The escapes that are letters. -/
def letterEscapes : List (Nat × Char) := [
  (0x00, '0'), (0x07, 'a'), (0x08, 'b'), (0x09, 't'), (0x0a, 'n'), (0x0b, 'v'), (0x0c, 'f'),
  (0x0d, 'r'), (0x1b, 'e'), (0x22, '"'), (0x5c, '\\'), (0x85, 'N'), (0xa0, '_'), (0x2028, 'L'),
  (0x2029, 'P')]

/-- The escape of a code point. -/
def escape (n : Nat) : Text :=
  '\\' ::
    match letterEscapes.lookup n with
    | some letter => [letter]
    | none =>
        if n ≤ 0xff then 'x' :: upperHex 2 n
        else if n ≤ 0xffff then 'u' :: upperHex 4 n
        else 'U' :: upperHex 8 n

def isEscaped (c : Char) : Bool :=
  c == '"' || c == '\\' || !(32 ≤ c.toNat && c.toNat ≤ 126)

/-- The inside of a double-quoted scalar. A line ends with a backslash before a blank or after an
escape; a blank at the beginning of the next line is escaped. `fresh` tells that nothing has been
written since the last escape or line. -/
def doubleFrom (indent column : Nat) (fresh first : Bool) : Text → Text
  | [] => []
  | c :: rest =>
      let inside := !first && !rest.isEmpty
      if isEscaped c then
        let written := escape (Text.codeOf c)
        let next := column + written.length
        if inside && width + 1 < next then
          if rest.head? = some ' ' then
            written ++ '\\' :: lineAt indent ++ '\\' :: doubleFrom indent (indent + 1) true false rest
          else written ++ '\\' :: lineAt indent ++ doubleFrom indent indent true false rest
        else written ++ doubleFrom indent next true false rest
      else if inside && (c == ' ' || fresh) && width < column then
        if c = ' ' then
          '\\' :: lineAt indent ++ '\\' :: c :: doubleFrom indent (indent + 2) false false rest
        else '\\' :: lineAt indent ++ c :: doubleFrom indent (indent + 1) false false rest
      else c :: doubleFrom indent (column + 1) false false rest

/-- A text that is written from `column` on, with further lines at `indent`. -/
def scalar (indent column : Nat) (s : Text) : Text :=
  match styleOf s with
  | .plain => plainFrom indent column false s
  | .singleQuoted => '\'' :: singleFrom indent (column + 1) none s ++ ['\'']
  | .doubleQuoted => '"' :: doubleFrom indent (column + 1) false true s ++ ['"']

/-- A text without line breaks as a key, which stays on one line. -/
def keyScalar (s : Text) : Text :=
  match styleOf s with
  | .plain => s
  | .singleQuoted => '\'' :: s.flatMap (fun c => if c = '\'' then "''".toList else [c]) ++ ['\'']
  | .doubleQuoted =>
      '"' :: s.flatMap (fun c => if isEscaped c then escape (Text.codeOf c) else [c]) ++ ['"']

def floatText : Double → Text
  | .nan => ".nan".toList
  | .infinite negative => Double.sign negative ++ ".inf".toList
  | x =>
      let written := x.text
      if written.contains '.' then written
      else written.flatMap fun c => if c = 'e' then ".0e".toList else [c]

end Schemata.Yaml
