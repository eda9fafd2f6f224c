import Schemata.Document.Calendar
import Schemata.Document.Double
import Schemata.Text.Integer
import Schemata.Text.Quoted

/-!
Values of documents. A mapping keeps its entries in the order in which they were written.
-/

namespace Schemata

inductive Value
  | null
  | bool (b : Bool)
  | int (n : Int)
  | float (x : Double)
  | day (d : Day)
  | moment (m : Moment)
  | text (s : Text)
  | list (items : List Value)
  | map (entries : List (Value × Value))
deriving Repr

namespace Value

instance : Inhabited Value := ⟨.null⟩

/-- The amount of a truth value among the integers. -/
def amount (b : Bool) : Int :=
  if b then 1 else 0

mutual

/-- Equality of values. Numbers and truth values are compared by their amount, and mappings entry
by entry. -/
def same : Value → Value → Bool
  | .null, .null => true
  | .bool a, .bool b => a == b
  | .bool a, .int n => amount a == n
  | .int n, .bool a => amount a == n
  | .bool a, .float x => x.isInteger (amount a)
  | .float x, .bool a => x.isInteger (amount a)
  | .int a, .int b => a == b
  | .int n, .float x => x.isInteger n
  | .float x, .int n => x.isInteger n
  | .float a, .float b => a.same b
  | .day a, .day b => a == b
  | .moment a, .moment b => a.same b
  | .text a, .text b => a == b
  | .list a, .list b => sameItems a b
  | .map a, .map b => sameEntries a b
  | _, _ => false

def sameItems : List Value → List Value → Bool
  | [], [] => true
  | a :: left, b :: right => same a b && sameItems left right
  | _, _ => false

def sameEntries : List (Value × Value) → List (Value × Value) → Bool
  | [], [] => true
  | (k, a) :: left, (l, b) :: right => same k l && same a b && sameEntries left right
  | _, _ => false

end

instance : BEq Value := ⟨same⟩

def ofBool? : Option Bool → Value
  | some b => .bool b
  | none => .null

def ofText? : Option Text → Value
  | some s => .text s
  | none => .null

def ofNat? : Option Nat → Value
  | some n => .int n
  | none => .null

/-- A mapping with texts as keys. -/
def record (fields : List (String × Value)) : Value :=
  .map (fields.map fun (name, value) => (.text name.toList, value))

/-- Whether a value counts as given: not null, false, zero or empty. -/
def isGiven : Value → Bool
  | .null => false
  | .bool b => b
  | .int n => n != 0
  | .float x => !x.isZero
  | .day _ => true
  | .moment _ => true
  | .text s => !s.isEmpty
  | .list items => !items.isEmpty
  | .map entries => !entries.isEmpty

def lookup? (key : Value) : List (Value × Value) → Option Value
  | [] => none
  | (k, value) :: rest => if same k key then some value else lookup? key rest

/-- Enters a value under a key; a key that is there already keeps its place. -/
def insert (key value : Value) : List (Value × Value) → List (Value × Value)
  | [] => [(key, value)]
  | (k, old) :: rest => if same k key then (k, value) :: rest else (k, old) :: insert key value rest

def integerText (n : Int) : Text :=
  (if n < 0 then ['-'] else []) ++ Nat.toDigits 10 n.natAbs

mutual

/-- A value as error messages show it. -/
def shown : Value → Text
  | .null => "None".toList
  | .bool b => if b then "True".toList else "False".toList
  | .int n => integerText n
  | .float x => x.text
  | .day d => d.shown
  | .moment m => m.shown
  | .text s => Text.quoted s
  | .list items => '[' :: shownItems items ++ [']']
  | .map entries => '\x7b' :: shownEntries entries ++ ['\x7d']

def shownItems : List Value → Text
  | [] => []
  | [value] => shown value
  | value :: rest => shown value ++ ", ".toList ++ shownItems rest

def shownEntries : List (Value × Value) → Text
  | [] => []
  | [(key, value)] => shown key ++ ": ".toList ++ shown value
  | (key, value) :: rest => shown key ++ ": ".toList ++ shown value ++ ", ".toList ++ shownEntries rest

end

/-- A value in the place of a text: texts as they are, days and moments in their written form, and
other values as they are shown. -/
def plainText : Value → Text
  | .text s => s
  | .day d => d.text
  | .moment m => m.text
  | value => value.shown

mutual

/-- Some integer in the value has more digits than are written. -/
def isVast : Value → Bool
  | .int n => Nat.pow 10 Text.digitLimit ≤ n.natAbs
  | .list items => hasVastItem items
  | .map entries => hasVastEntry entries
  | _ => false

def hasVastItem : List Value → Bool
  | [] => false
  | value :: rest => isVast value || hasVastItem rest

def hasVastEntry : List (Value × Value) → Bool
  | [] => false
  | (key, value) :: rest => isVast key || isVast value || hasVastEntry rest

end

/-- The name of the kind of value in messages. -/
def kindName : Value → Text
  | .null => "NoneType".toList
  | .bool _ => "bool".toList
  | .int _ => "int".toList
  | .float _ => "float".toList
  | .day _ => "datetime.date".toList
  | .moment _ => "datetime.datetime".toList
  | .text _ => "str".toList
  | .list _ => "list".toList
  | .map _ => "dict".toList

@[simp] theorem isGiven_null : isGiven .null = false := rfl

end Value

end Schemata
