import Schemata.Yaml.Implicit

/-!
Nodes: a document whose plain scalars have not been given values yet. Values are given level by
level, the lists and mappings of one level from left to right, so the first error is the one of the
least level. An entry under the merge key brings in the entries of another mapping, or of several,
before those that the mapping has itself.
-/

namespace Schemata.Yaml

inductive Node
  | plain (s : Text)
  | quoted (s : Text)
  | list (items : List Node)
  | map (entries : List (Node × Node))
deriving Repr

namespace Node

/-- The node that stands where nothing is written. -/
def absent : Node :=
  .plain []

/-- A value, or the first error with its level. -/
abbrev Outcome (α : Type) := Except (Nat × ReadError) α

/-- Both results; of two errors the one of the lesser level, and the left one on the same level. -/
def both {α β : Type} : Outcome α → Outcome β → Outcome (α × β)
  | .ok a, .ok b => .ok (a, b)
  | .error left, .ok _ => .error left
  | .ok _, .error right => .error right
  | .error left, .error right => .error (if right.1 < left.1 then right else left)

abbrev Entries := List (Value × Value)

def joined (one other : Outcome Entries) : Outcome Entries :=
  (both one other).map fun (left, right) => left ++ right

/-- The entries of a mapping: those that it takes from others and its own. It is sound if only
mappings stand under its merge keys. -/
structure Gathered where
  sound : Bool := true
  taken : Outcome Entries := .ok []
  own : Outcome Entries := .ok []

namespace Gathered

def all (gathered : Gathered) : Outcome Entries :=
  joined gathered.taken gathered.own

/-- Adds entries that are taken from others before those that are there. -/
def take (gathered : Gathered) (other : Gathered) : Gathered :=
  { gathered with
    sound := other.sound && gathered.sound
    taken := joined other.all gathered.taken }

/-- The mapping of all entries; the later of two equal keys wins. -/
def value (level : Nat) (gathered : Gathered) : Outcome Value :=
  if gathered.sound then
    gathered.all.map fun entries =>
      .map (entries.foldl (fun found (key, value) => Value.insert key value found) [])
  else .error (level, .malformed)

end Gathered

/-- The mark of a merge key. -/
def isMerge : Node → Bool
  | .plain s => s == "<<".toList
  | _ => false

def scalarOutcome (level : Nat) (s : Text) : Outcome Value :=
  (plainValue s).mapError fun error => (level, error)

/-- The value of a key. Lists and mappings cannot be keys, and the default mark is a text there. -/
def keyOutcome (level : Nat) : Node → Outcome Value
  | .plain s => if s = ['='] then .ok (.text s) else scalarOutcome level s
  | .quoted s => .ok (.text s)
  | _ => .error (level, .malformed)

mutual

/-- The value of a node that stands on a level. -/
def outcome (level : Nat) : Node → Outcome Value
  | .plain s => scalarOutcome level s
  | .quoted s => .ok (.text s)
  | .list items => (itemOutcomes (level + 1) items).map .list
  | .map entries => (gathered (level + 1) entries).value (level + 1)

def itemOutcomes (level : Nat) : List Node → Outcome (List Value)
  | [] => .ok []
  | item :: rest =>
      (both (outcome level item) (itemOutcomes level rest)).map fun (value, others) =>
        value :: others

def gathered (level : Nat) : List (Node × Node) → Gathered
  | [] => {}
  | (key, value) :: rest =>
      let others := gathered level rest
      if key.isMerge then others.take (merged level value)
      else
        let entry := (both (keyOutcome level key) (outcome level value)).map fun entry => [entry]
        { others with own := joined entry others.own }

/-- The entries that stand under a merge key. -/
def merged (level : Nat) : Node → Gathered
  | .map entries => gathered level entries
  | .list items => mergedItems level items
  | _ => { sound := false }

/-- The entries of several mappings; those of an earlier one come later and so win. -/
def mergedItems (level : Nat) : List Node → Gathered
  | [] => {}
  | .map entries :: rest =>
      let first := gathered level entries
      let others := mergedItems level rest
      { sound := first.sound && others.sound, taken := joined others.all first.all }
  | _ :: _ => { sound := false }

end

/-- The value of a document. -/
def value (node : Node) : Except ReadError Value :=
  (outcome 0 node).mapError (·.2)

end Node

end Schemata.Yaml
