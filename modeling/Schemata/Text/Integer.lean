import Schemata.Text.Blank

/-!
Integers as texts spell them: decimal digits of any script, a sign in front, and underscores
between digits.
-/

namespace Schemata.Text

/-- The digit zero of each script that has decimal digits of its own. The nine code points after it
are the other digits. -/
def zeros : List Nat :=
  [0x30, 0x660, 0x6f0, 0x7c0, 0x966, 0x9e6, 0xa66, 0xae6, 0xb66, 0xbe6, 0xc66, 0xce6, 0xd66, 0xde6,
   0xe50, 0xed0, 0xf20, 0x1040, 0x1090, 0x17e0, 0x1810, 0x1946, 0x19d0, 0x1a80, 0x1a90, 0x1b50,
   0x1bb0, 0x1c40, 0x1c50, 0xa620, 0xa8d0, 0xa900, 0xa9d0, 0xa9f0, 0xaa50, 0xabf0, 0xff10, 0x104a0,
   0x10d30, 0x11066, 0x110f0, 0x11136, 0x111d0, 0x112f0, 0x11450, 0x114d0, 0x11650, 0x116c0,
   0x11730, 0x118e0, 0x11950, 0x11c50, 0x11d50, 0x11da0, 0x16a60, 0x16ac0, 0x16b50, 0x1d7ce,
   0x1d7d8, 0x1d7e2, 0x1d7ec, 0x1d7f6, 0x1e140, 0x1e2f0, 0x1e950, 0x1fbf0]

/-- The value of a decimal digit. -/
def digitValue? (c : Char) : Option Nat :=
  (zeros.find? fun first => first ≤ c.toNat && c.toNat < first + 10).map (c.toNat - ·)

/-- The most digits with which an integer is read or written. -/
def digitLimit : Nat := 4300

/-- The message about an integer with too many digits; `detail` tells how many they are. -/
def limitMessage (detail : Text) : Text :=
  "Exceeds the limit (".toList ++ Nat.toDigits 10 digitLimit ++
    " digits) for integer string conversion".toList ++ detail ++
    "; use sys.set_int_max_str_digits() to increase the limit".toList

def tooLongMessage (digits : Nat) : Text :=
  limitMessage (": value has ".toList ++ Nat.toDigits 10 digits ++ " digits".toList)

/-- Why a text gives no integer. -/
inductive IntegerDefect
  | malformed
  /-- The text begins with more digits than are read. -/
  | tooLong (digits : Nat)
deriving DecidableEq, Repr

/-- A digit or an underscore. -/
def isDigitMark (c : Char) : Bool :=
  c == '_' || (digitValue? c).isSome

/-- Each underscore stands between two digits; `afterDigit` tells whether a digit stands before. -/
def groupsDigits (afterDigit : Bool) : Text → Bool
  | [] => afterDigit
  | c :: rest => if c = '_' then afterDigit && groupsDigits false rest else groupsDigits true rest

/-- White space that may stand round an integer. The ASCII information separators may not. -/
def surroundsInteger (c : Char) : Bool :=
  isBlank c && !(0x1c ≤ c.toNat && c.toNat ≤ 0x1f)

/-- The number at the beginning of a text, after which only white space follows. -/
def unsigned (text : Text) : Except IntegerDefect Nat :=
  let (run, rest) := text.span isDigitMark
  let digits := run.filterMap digitValue?
  if !groupsDigits false run then throw .malformed
  else if digitLimit < digits.length then throw (.tooLong digits.length)
  else if rest.all surroundsInteger then
    return digits.foldl (fun total digit => total * 10 + digit) 0
  else throw .malformed

/-- The integer that a text spells. -/
def integer (text : Text) : Except IntegerDefect Int :=
  match text.dropWhile surroundsInteger with
  | '-' :: digits => (unsigned digits).map fun n => -(n : Int)
  | '+' :: digits => (unsigned digits).map Int.ofNat
  | digits => (unsigned digits).map Int.ofNat

end Schemata.Text
