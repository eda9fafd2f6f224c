import Schemata.Document.Value
import Schemata.Reader
import Schemata.Text.Digits
import Schemata.Yaml.ReadError

/-!
What a plain scalar stands for: the words for truth values and null, integers, floating-point
numbers, times, and otherwise a text.
-/

namespace Schemata.Yaml

open Reader

/-- The kinds of plain scalars that are not texts. -/
inductive ImplicitKind
  | truth
  | float
  | integer
  | merge
  | null
  | time
  | value
deriving DecidableEq, Repr

def isOneOf (words : List String) (s : Text) : Bool :=
  words.any fun word => word.toList == s

def truths : List String :=
  ["yes", "Yes", "YES", "true", "True", "TRUE", "on", "On", "ON"]

def falsehoods : List String :=
  ["no", "No", "NO", "false", "False", "FALSE", "off", "Off", "OFF"]

def nulls : List String :=
  ["", "~", "null", "Null", "NULL"]

/-- What a reader gives for the whole of a text. -/
def wholly {α : Type} (reader : Reader α) (s : Text) : Option α :=
  ((reader.ways s).find? fun (_, left) => left.isEmpty).map (·.1)

/-- The whole text can be read. -/
def fits (reader : Reader Unit) (s : Text) : Bool :=
  (wholly reader s).isSome

def one (accepted : Char → Bool) : Reader Unit := do
  let _ ← char accepted

def optional (reader : Reader Unit) : Reader Unit := do
  let _ ← maybe reader

def isSign (c : Char) : Bool := c == '-' || c == '+'

def isDigit (c : Char) : Bool := c.isDigit

def isDigitOrMark (c : Char) : Bool := c.isDigit || c == '_'

/-- Groups of sixty after a colon each. -/
def sixties : Reader Unit :=
  repeated do
    one (· == ':')
    optional (one fun c => '0' ≤ c && c ≤ '5')
    one isDigit

def oneSixtyAtLeast : Reader Unit := do
  one (· == ':')
  optional (one fun c => '0' ≤ c && c ≤ '5')
  one isDigit
  sixties

def startsPositive (c : Char) : Bool := '1' ≤ c && c ≤ '9'

def binaryInteger : Reader Unit := do
  exactly "0b".toList
  run1 fun c => c == '0' || c == '1' || c == '_'

def octalInteger : Reader Unit := do
  exactly "0".toList
  run1 fun c => ('0' ≤ c && c ≤ '7') || c == '_'

def decimalInteger : Reader Unit :=
  either (exactly "0".toList) (do one startsPositive; run isDigitOrMark)

def hexInteger : Reader Unit := do
  exactly "0x".toList
  run1 fun c => Text.isHexDigit c || c == '_'

def sexagesimalInteger : Reader Unit := do
  one startsPositive
  run isDigitOrMark
  oneSixtyAtLeast

def integer : Reader Unit := do
  optional (one isSign)
  either binaryInteger (either octalInteger (either decimalInteger
    (either hexInteger sexagesimalInteger)))

def exponent : Reader Unit := do
  one fun c => c == 'e' || c == 'E'
  one isSign
  run1 isDigit

def pointed : Reader Unit := do
  optional (one isSign)
  one isDigit
  run isDigitOrMark
  exactly ".".toList
  run isDigitOrMark
  optional exponent

def fractional : Reader Unit := do
  exactly ".".toList
  one isDigit
  run isDigitOrMark
  optional exponent

def sexagesimalFloat : Reader Unit := do
  optional (one isSign)
  one isDigit
  run isDigitOrMark
  oneSixtyAtLeast
  exactly ".".toList
  run isDigitOrMark

def infinity : Reader Unit := do
  optional (one isSign)
  either (exactly ".inf".toList) (either (exactly ".Inf".toList) (exactly ".INF".toList))

def notANumber : Reader Unit :=
  either (exactly ".nan".toList) (either (exactly ".NaN".toList) (exactly ".NAN".toList))

def float : Reader Unit :=
  either pointed (either fractional (either sexagesimalFloat (either infinity notANumber)))

/-- A number of `count` decimal digits, read on from `total`. -/
def numberFrom (total : Nat) : Nat → Reader Nat
  | 0 => Reader.pure total
  | count + 1 => do
      let c ← char isDigit
      numberFrom (total * 10 + Text.hexValue c) count

def number (count : Nat) : Reader Nat :=
  numberFrom 0 count

def shortNumber : Reader Nat :=
  either (number 2) (number 1)

def day : Reader Day := do
  let year ← number 4
  exactly "-".toList
  let month ← number 2
  exactly "-".toList
  let day ← number 2
  return { year, month, day }

def isBlankInLine (c : Char) : Bool := c == ' ' || c == '\t'

/-- Millionths of a second, from the digits after the point; further ones are passed over. -/
def microseconds : Reader Nat := do
  exactly ".".toList
  let digits ← captured (run isDigit)
  return Text.inBase 10 ((digits.text ++ Double.zeros 6).take 6)

/-- The offset from universal time in minutes. -/
def zone : Reader Int := do
  run isBlankInLine
  either (do exactly "Z".toList; return 0) do
    let sign ← char isSign
    let hours ← shortNumber
    let minutes ← maybe do
      exactly ":".toList
      number 2
    let offset : Int := (hours * 60 + minutes.getD 0 : Nat)
    return if sign == '-' then -offset else offset

def moment : Reader Moment := do
  let year ← number 4
  exactly "-".toList
  let month ← shortNumber
  exactly "-".toList
  let day ← shortNumber
  either (one fun c => c == 'T' || c == 't') (run1 isBlankInLine)
  let hour ← shortNumber
  exactly ":".toList
  let minute ← number 2
  exactly ":".toList
  let second ← number 2
  let microsecond ← maybe microseconds
  let offset ← maybe zone
  return { day := { year, month, day }, hour, minute, second, offset
           microsecond := microsecond.getD 0 }

def isTime (s : Text) : Bool :=
  (wholly day s).isSome || (wholly moment s).isSome

/-- The kind of a plain scalar; `none` for a text. -/
def implicitKind? (s : Text) : Option ImplicitKind :=
  if isOneOf truths s || isOneOf falsehoods s then some .truth
  else if fits float s then some .float
  else if fits integer s then some .integer
  else if s == "<<".toList then some .merge
  else if isOneOf nulls s then some .null
  else if isTime s then some .time
  else if s == "=".toList then some .value
  else none

/-- The sign of a number and the rest of it, without the marks between digits. -/
def splitSign (s : Text) : Bool × Text :=
  match s.filter (· != '_') with
  | '-' :: rest => (true, rest)
  | '+' :: rest => (false, rest)
  | rest => (false, rest)

/-- The number that digits spell, if there are any. -/
def digitsValue (base : Nat) (digits : Text) : Except ScalarDefect Nat :=
  if digits.isEmpty then throw (.noDigits base)
  else if base = 10 ∧ Text.digitLimit < digits.length then throw (.tooLong digits.length)
  else return Text.inBase base digits

/-- The number of groups of sixty. -/
def inSixties (parts : List Text) : Except ScalarDefect Nat :=
  parts.foldlM (fun total part => return total * 60 + (← digitsValue 10 part)) 0

def integerValue (s : Text) : Except ScalarDefect Int := do
  let (negative, rest) := splitSign s
  let amount ←
    match rest with
    | '0' :: 'b' :: digits => digitsValue 2 digits
    | '0' :: 'x' :: digits => digitsValue 16 digits
    | '0' :: digits => pure (Text.inBase 8 digits)
    | digits => inSixties (digits.splitOn ':')
  return Double.signed negative amount

/-- A decimal with a point and an exponent. -/
def decimalValue (s : Text) : Double :=
  let (mantissa, exponent) := s.span fun c => c != 'e' && c != 'E'
  let (whole, fraction) := mantissa.span (· != '.')
  let fraction := fraction.drop 1
  let power : Int :=
    match exponent.drop 1 with
    | '-' :: digits => -(Text.inBase 10 digits : Nat)
    | '+' :: digits => (Text.inBase 10 digits : Nat)
    | digits => (Text.inBase 10 digits : Nat)
  Double.ofDecimal false (Text.inBase 10 (whole ++ fraction)) (power - fraction.length)

/-- Floating-point groups of sixty, the lowest first, added to what has been read. -/
def sumOfSixties (base : Nat) (total : Double) : List Double → Except ScalarDefect Double
  | [] => return total
  | part :: rest =>
      let factor := Double.ofNat base
      if factor = .infinite false then throw .beyondFloats
      else sumOfSixties (base * 60) (total.add (part.mul factor)) rest

def floatValue (s : Text) : Except ScalarDefect Double := do
  let (negative, rest) := splitSign s
  let digits := rest.map Char.toLower
  let amount ←
    match digits with
    | '.' :: 'i' :: _ => pure (.infinite false)
    | '.' :: 'n' :: _ => pure .nan
    | _ =>
        if digits.contains ':' then
          sumOfSixties 1 (.zero false) ((digits.splitOn ':').map decimalValue).reverse
        else pure (decimalValue digits)
  return if negative then amount.negate else amount

/-- A day or a moment that the calendar has. -/
def timeValue (s : Text) : Except ScalarDefect Value :=
  let checked (value : Value) (defect : Option CalendarDefect) : Except ScalarDefect Value :=
    match defect with
    | some defect => throw (.calendar defect)
    | none => return value
  match wholly day s, wholly moment s with
  | some day, _ => checked (.day day) day.defect?
  | none, some moment => checked (.moment moment) moment.defect?
  | none, none => return .text s

/-- The value of a plain scalar. A merge mark or a default mark has none. -/
def plainValue (s : Text) : Except ReadError Value :=
  match implicitKind? s with
  | some .truth => return .bool (isOneOf truths s)
  | some .float => ((floatValue s).map .float).mapError .scalar
  | some .integer => ((integerValue s).map .int).mapError .scalar
  | some .null => return .null
  | some .merge => throw .malformed
  | some .value => throw .malformed
  | some .time => (timeValue s).mapError .scalar
  | none => return .text s

end Schemata.Yaml
