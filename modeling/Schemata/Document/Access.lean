import Schemata.Document.Value
import Schemata.Text.Case
import Schemata.Text.Order

/-!
Taking values apart. Each failure is a cause of its own, with the message that belongs to it.
-/

namespace Schemata

inductive AccessError
  /-- A mapping lacks a key. -/
  | missingKey (key : Text)
  /-- A value is none of the labels of a type. -/
  | notLabel (value : Value) (type : Text)
  /-- A text does not spell an integer. -/
  | notInteger (text : Text)
  /-- A text has more digits than are read. -/
  | tooLong (digits : Nat)
  /-- An integer has more digits than are written. -/
  | vast
  /-- A float that is not a number has no integer part. -/
  | notNumber
  /-- An infinite float has no integer part. -/
  | infinite
  /-- A value does not go with the operation; the message tells how. -/
  | wrongShape (message : Text)
  /-- A value of this kind lacks an operation by name. -/
  | lacks (kind : Text) (operation : Text)
deriving Repr

namespace AccessError

/-- The characters of a text that a message about an integer shows at most. -/
def shownLength : Nat := 200

def message : AccessError → Text
  | missingKey key => Text.quoted key
  | notLabel value type =>
      if value.isVast then Text.limitMessage []
      else value.shown ++ " is not a valid ".toList ++ type
  | notInteger text =>
      "invalid literal for int() with base 10: ".toList ++ (Text.quoted text).take shownLength
  | tooLong digits => Text.tooLongMessage digits
  | vast => Text.limitMessage []
  | notNumber => "cannot convert float NaN to integer".toList
  | infinite => "cannot convert float infinity to integer".toList
  | wrongShape message => message
  | lacks kind operation =>
      '\'' :: kind ++ "' object has no attribute '".toList ++ operation ++ ['\'']

/-- The value is of a right kind, but none of the values that are allowed. -/
def concernsValue : AccessError → Bool
  | notLabel _ _ => true
  | notInteger _ => true
  | tooLong _ => true
  | vast => true
  | notNumber => true
  | _ => false

end AccessError

namespace Value

/-- The entries of a mapping that is asked for keys by name. -/
def entries (value : Value) : Except AccessError (List (Value × Value)) :=
  match value with
  | .map entries => return entries
  | other => throw (.lacks other.kindName "get".toList)

/-- The value under a key of a mapping, if the key is there. -/
def get? (value : Value) (key : Text) : Except AccessError (Option Value) := do
  return lookup? (.text key) (← value.entries)

def getD (value : Value) (key : Text) (default : Value) : Except AccessError Value := do
  return (← value.get? key).getD default

/-- The value under a key that has to be there. -/
def item (value : Value) (key : Text) : Except AccessError Value :=
  match value with
  | .map entries =>
      match lookup? (.text key) entries with
      | some found => return found
      | none => throw (.missingKey key)
  | .list _ =>
      throw (.wrongShape "list indices must be integers or slices, not str".toList)
  | .text _ => throw (.wrongShape "string indices must be integers, not 'str'".toList)
  | other =>
      throw (.wrongShape ('\'' :: other.kindName ++ "' object is not subscriptable".toList))

/-- The elements of a value: items of a list, characters of a text, keys of a mapping. -/
def elements (value : Value) : Except AccessError (List Value) :=
  match value with
  | .list items => return items
  | .text s => return s.map fun c => .text [c]
  | .map entries => return entries.map (·.1)
  | other => throw (.wrongShape ('\'' :: other.kindName ++ "' object is not iterable".toList))

/-- Lists and mappings can be neither keys nor members of sets. -/
def checkKey (value : Value) : Except AccessError Unit :=
  match value with
  | .list _ => throw (.wrongShape "unhashable type: 'list'".toList)
  | .map _ => throw (.wrongShape "unhashable type: 'dict'".toList)
  | _ => return ()

/-- Whether a value has a key, an element or, for a text, a part. -/
def has (value : Value) (key : Text) : Except AccessError Bool :=
  match value with
  | .map entries => return (lookup? (.text key) entries).isSome
  | .list items => return items.any (same (.text key))
  | .text s => return Text.hasPart key s
  | other =>
      throw (.wrongShape ("argument of type '".toList ++ other.kindName ++ "' is not iterable".toList))

/-- The lower-case form, which only texts have. -/
def lowered (value : Value) : Except AccessError Value :=
  match value with
  | .text s => return .text (Text.lower s)
  | other => throw (.lacks other.kindName "lower".toList)

/-- The value in the place of a text. -/
def toText (value : Value) : Except AccessError Text :=
  if value.isVast then throw .vast else return value.plainText

/-- The integer that a text spells. -/
def integerOf (s : Text) : Except AccessError Int :=
  match Text.integer s with
  | .ok n => return n
  | .error .malformed => throw (.notInteger s)
  | .error (.tooLong digits) => throw (.tooLong digits)

/-- The value as an integer; floats lose their fraction. -/
def toInteger (value : Value) : Except AccessError Int :=
  match value with
  | .int n => return n
  | .bool b => return if b then 1 else 0
  | .float (.infinite _) => throw .infinite
  | .float x =>
      match x.truncated? with
      | some n => return n
      | none => throw .notNumber
  | .text s => integerOf s
  | other =>
      throw (.wrongShape
        ("int() argument must be a string, a bytes-like object or a real number, not '".toList ++
          other.kindName ++ ['\'']))

end Value

end Schemata
