import Schemata.Document.Calendar
import Schemata.Text.Integer

/-!
What keeps a document from being read: it breaks the rules of YAML, or one of its scalars has the
form of a value that there is not. A reader may have other errors of its own.
-/

namespace Schemata.Yaml

inductive ScalarDefect
  /-- An escape names a number beyond the code points. -/
  | beyondCodePoints
  /-- An escape names a number that does not even fit a word of 31 bits. -/
  | beyondWords
  /-- An integer has the mark of its base, but no digits. -/
  | noDigits (base : Nat)
  /-- An integer has more digits than are read. -/
  | tooLong (digits : Nat)
  /-- A power of sixty is beyond the range of floating-point numbers. -/
  | beyondFloats
  | calendar (defect : CalendarDefect)
deriving DecidableEq, Repr

inductive ReadError
  | malformed
  | scalar (defect : ScalarDefect)
  /-- Another error, with its message. It may be one about a wrong value. -/
  | other (concernsValue : Bool) (message : Text)
deriving DecidableEq, Repr

/-- What has to be there in a well-formed document. -/
def ReadError.required {α : Type} : Option α → Except ReadError α
  | some a => return a
  | none => throw .malformed

namespace ScalarDefect

def message : ScalarDefect → Text
  | beyondCodePoints => "chr() arg not in range(0x110000)".toList
  | beyondWords => "code point too large".toList
  | noDigits base =>
      "invalid literal for int() with base ".toList ++ Nat.toDigits 10 base ++ ": ''".toList
  | tooLong digits => Text.tooLongMessage digits
  | beyondFloats => "int too large to convert to float".toList
  | calendar defect => defect.message

/-- The scalar goes beyond what numbers can hold. -/
def isOverflow : ScalarDefect → Bool
  | beyondWords => true
  | beyondFloats => true
  | _ => false

end ScalarDefect

namespace ReadError

/-- The error of a reader at syntax that it does not cover. -/
def notCovered : ReadError :=
  .other false "tags, anchors, aliases, block scalars and directives are not read".toList

/-- The document breaks the rules of YAML or holds a wrong value; other errors are breakdowns. -/
def isRefusal : ReadError → Bool
  | malformed => true
  | scalar defect => !defect.isOverflow
  | other concernsValue _ => concernsValue

end ReadError

end Schemata.Yaml
