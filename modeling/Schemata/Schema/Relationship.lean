import Schemata.Text.Order

/-!
Relationships between columns, and the order in which they are reported.
-/

namespace Schemata

structure ColumnReference where
  table : Text
  column : Text
deriving DecidableEq, Repr

def ColumnReference.qualifiedName (reference : ColumnReference) : Text :=
  reference.table ++ '.' :: reference.column

inductive Cardinality
  | oneToOne
  | oneToMany
  | manyToOne
  | manyToMany
deriving DecidableEq, Repr

namespace Cardinality

def label : Cardinality → Text
  | oneToOne => "ONE_TO_ONE".toList
  | oneToMany => "ONE_TO_MANY".toList
  | manyToOne => "MANY_TO_ONE".toList
  | manyToMany => "MANY_TO_MANY".toList

/-- The place in the order of a report. -/
def priority : Cardinality → Nat
  | oneToOne => 0
  | oneToMany => 1
  | manyToOne => 2
  | manyToMany => 3

def all : List Cardinality := [oneToOne, oneToMany, manyToOne, manyToMany]

def ofLabel? (text : Text) : Option Cardinality :=
  all.find? fun cardinality => cardinality.label == text

theorem ofLabel?_label (cardinality : Cardinality) : ofLabel? cardinality.label = some cardinality := by
  cases cardinality <;> decide

end Cardinality

/-- How a relationship came about. -/
inductive Origin
  | direct
  | junction
  | convention
deriving DecidableEq, Repr

def Origin.label : Origin → Text
  | direct => "direct".toList
  | junction => "junction".toList
  | convention => "convention".toList

structure Relationship where
  source : ColumnReference
  target : ColumnReference
  cardinality : Cardinality
  junctionTable : Option Text := none
  origin : Origin := .direct
deriving DecidableEq, Repr

/-- The endpoints; two relationships with the same ones are the same to a report. -/
def Relationship.key (relationship : Relationship) : ColumnReference × ColumnReference :=
  (relationship.source, relationship.target)

/-- Keeps the first element of each key that is not among `seen`. -/
def firstOfEach {ρ κ : Type} [BEq κ] (key : ρ → κ) (seen : List κ) : List ρ → List ρ
  | [] => []
  | r :: rest =>
      if seen.contains (key r) then firstOfEach key seen rest
      else r :: firstOfEach key (key r :: seen) rest

/-- A rank and a name; entries are ordered by rank, then by name. -/
abbrev SortKey := Nat × Text

def SortKey.le (left right : SortKey) : Bool :=
  left.1 < right.1 || (left.1 == right.1 && Text.le left.2 right.2)

def Relationship.sortKey (relationship : Relationship) : SortKey :=
  (relationship.cardinality.priority, relationship.source.qualifiedName)

/-- The first element of each key, in the order of the sort keys; equal ones keep their order. -/
def distinctSorted {ρ κ : Type} [BEq κ] (key : ρ → κ) (sortKey : ρ → SortKey)
    (list : List ρ) : List ρ :=
  (firstOfEach key [] list).mergeSort fun left right => (sortKey left).le (sortKey right)

/-- Relationships as a report lists them. -/
def Relationship.report (relationships : List Relationship) : List Relationship :=
  distinctSorted Relationship.key Relationship.sortKey relationships

theorem SortKey.le_total (left right : SortKey) : (left.le right || right.le left) = true := by
  have names := Text.le_total left.2 right.2
  simp only [SortKey.le, Bool.or_eq_true, decide_eq_true_eq, Bool.and_eq_true, beq_iff_eq] at names ⊢
  rcases Nat.lt_trichotomy left.1 right.1 with below | same | above
  · exact Or.inl (Or.inl below)
  · rcases names with first | second
    · exact Or.inl (Or.inr ⟨same, first⟩)
    · exact Or.inr (Or.inr ⟨same.symm, second⟩)
  · exact Or.inr (Or.inl above)

theorem SortKey.le_trans {first second third : SortKey} (lower : first.le second = true)
    (upper : second.le third = true) : first.le third = true := by
  simp only [SortKey.le, Bool.or_eq_true, decide_eq_true_eq, Bool.and_eq_true, beq_iff_eq] at lower upper ⊢
  rcases lower with below | ⟨same, names⟩
  · rcases upper with above | ⟨equal, _⟩ <;> exact Or.inl (by omega)
  · rcases upper with above | ⟨equal, more⟩
    · exact Or.inl (by omega)
    · exact Or.inr ⟨by omega, Text.le_trans names more⟩

end Schemata
