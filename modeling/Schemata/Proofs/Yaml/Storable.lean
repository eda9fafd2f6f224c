import Mathlib.Data.List.Nodup
import Schemata.Proofs.Yaml.Number
import Schemata.Yaml.Node

/-!
The values that results are stored as, and what the nodes of a document stand for. Keys are names, which
are different in each mapping, and numbers are not longer than they may be read.
-/

namespace Schemata

/-- A key of a stored mapping, which is written plain and reads as itself. -/
structure IsName (name : Text) : Prop where
  filled : name ≠ []
  letters : ∀ c ∈ name, Yaml.isNameChar c = true
  short : name.length ≤ 100
  unknown : Yaml.implicitKind? name = none

namespace Value

def ofField (field : Text × Value) : Value × Value :=
  (.text field.1, field.2)

/-- The value is nested no deeper than `depth`. -/
inductive Storable : Nat → Value → Prop
  | null {depth : Nat} : Storable depth .null
  | bool {depth : Nat} (b : Bool) : Storable depth (.bool b)
  | int {depth n : Nat} (short : n < 10 ^ Text.digitLimit) : Storable depth (.int n)
  | text {depth : Nat} (s : Text) : Storable depth (.text s)
  | list {depth : Nat} {items : List Value} (each : ∀ item ∈ items, Storable depth item) :
      Storable (depth + 1) (.list items)
  | map {depth : Nat} {fields : List (Text × Value)} (names : ∀ field ∈ fields, IsName field.1)
      (distinct : (fields.map Prod.fst).Nodup) (each : ∀ field ∈ fields, Storable depth field.2) :
      Storable (depth + 1) (.map (fields.map ofField))

theorem same_text (s t : Text) : same (.text s) (.text t) = (s == t) := by
  rw [same]

theorem insert_of_new {name : Text} {fields : List (Text × Value)} (new : name ∉ fields.map Prod.fst)
    (value : Value) :
    insert (.text name) value (fields.map ofField) = (fields ++ [(name, value)]).map ofField := by
  induction fields with
  | nil => rfl
  | cons field rest ih =>
      rw [List.map_cons, List.mem_cons, not_or] at new
      have differs : (field.1 == name) = false := beq_eq_false_iff_ne.mpr fun same => new.1 same.symm
      change (if same (.text field.1) (.text name) = true then _ else _) = _
      rw [same_text, differs, if_neg Bool.false_ne_true, ih new.2]
      rfl

/-- The entries of a mapping with different keys are the ones that it is made from. -/
theorem foldl_insert (before : List (Text × Value)) {fields : List (Text × Value)}
    (distinct : ((before ++ fields).map Prod.fst).Nodup) :
    (fields.map ofField).foldl (fun found (key, value) => insert key value found) (before.map ofField) =
      (before ++ fields).map ofField := by
  induction fields generalizing before with
  | nil => rw [List.append_nil]; rfl
  | cons field rest ih =>
      have new : field.1 ∉ before.map Prod.fst := by
        rw [List.map_append, List.nodup_append] at distinct
        exact fun member => distinct.2.2 _ member _ (List.mem_cons_self ..) rfl
      have further : before ++ [field] ++ rest = before ++ field :: rest := List.append_assoc ..
      rw [List.map_cons, List.foldl_cons]
      change (rest.map ofField).foldl _ (insert (.text field.1) field.2 (before.map ofField)) = _
      rw [insert_of_new new, ih (before ++ [field]) (further ▸ distinct), further]

end Value

namespace Yaml.Node

/-- The value of the node, on whatever level it stands. -/
def StandsFor (node : Node) (value : Value) : Prop :=
  ∀ level, outcome level node = .ok value

def ItemsStandFor (nodes : List Node) (items : List Value) : Prop :=
  ∀ level, itemOutcomes level nodes = .ok items

/-- The entries of a mapping without merge keys. -/
def EntriesStandFor (nodes : List (Node × Node)) (fields : List (Text × Value)) : Prop :=
  ∀ level, gathered level nodes = { own := .ok (fields.map Value.ofField) }

theorem standsFor_plain {s : Text} {value : Value} (read : plainValue s = .ok value) :
    (plain s).StandsFor value := by
  intro level
  rw [outcome, scalarOutcome, read]
  rfl

theorem standsFor_quoted (s : Text) : (quoted s).StandsFor (.text s) := fun _ => by
  rw [outcome]

theorem itemsStandFor_nil : ItemsStandFor [] [] := fun _ => by
  rw [itemOutcomes]

theorem ItemsStandFor.cons {node : Node} {value : Value} {nodes : List Node} {items : List Value}
    (first : node.StandsFor value) (rest : ItemsStandFor nodes items) :
    ItemsStandFor (node :: nodes) (value :: items) := by
  intro level
  rw [itemOutcomes, first, rest]
  rfl

theorem ItemsStandFor.list {nodes : List Node} {items : List Value} (each : ItemsStandFor nodes items) :
    (list nodes).StandsFor (.list items) := by
  intro level
  rw [outcome, each]
  rfl

theorem entriesStandFor_nil : EntriesStandFor [] [] := fun _ => by
  rw [gathered]
  rfl

/-- The mark of a key that reads as its name. -/
def IsKey (node : Node) (name : Text) : Prop :=
  node.isMerge = false ∧ ∀ level, keyOutcome level node = .ok (.text name)

theorem isKey_quoted (name : Text) : (quoted name).IsKey name :=
  ⟨rfl, fun _ => rfl⟩

theorem isKey_plain {name : Text} (named : IsName name) : (plain name).IsKey name := by
  have letter {d : Char} (other : isNameChar d = false) {rest : Text} : name ≠ d :: rest := by
    rintro rfl
    exact Bool.false_ne_true (other.symm.trans (named.letters d (List.mem_cons_self ..)))
  refine ⟨?_, fun level => ?_⟩
  · rw [isMerge, beq_eq_false_iff_ne]
    exact letter (by decide)
  · rw [keyOutcome, if_neg (letter (by decide)), scalarOutcome, plainValue_text named.unknown]
    rfl

theorem EntriesStandFor.cons {key node : Node} {name : Text} {value : Value}
    {nodes : List (Node × Node)} {fields : List (Text × Value)} (isKey : key.IsKey name)
    (first : node.StandsFor value) (rest : EntriesStandFor nodes fields) :
    EntriesStandFor ((key, node) :: nodes) ((name, value) :: fields) := by
  intro level
  rw [gathered, isKey.1, rest, isKey.2, first]
  rfl

theorem EntriesStandFor.map {nodes : List (Node × Node)} {fields : List (Text × Value)}
    (each : EntriesStandFor nodes fields) (distinct : (fields.map Prod.fst).Nodup) :
    (map nodes).StandsFor (.map (fields.map Value.ofField)) := by
  intro level
  have entries : (fields.map Value.ofField).foldl
      (fun found (key, value) => Value.insert key value found) [] = fields.map Value.ofField :=
    Value.foldl_insert [] distinct
  rw [outcome, each, Gathered.value, if_pos rfl]
  change Except.map _ (Except.ok ([] ++ fields.map Value.ofField)) = _
  rw [List.nil_append, Except.map, entries]

theorem value_of_standsFor {node : Node} {value : Value} (stands : node.StandsFor value) :
    node.value = .ok value := by
  rw [Node.value, stands]
  rfl

end Yaml.Node

end Schemata
