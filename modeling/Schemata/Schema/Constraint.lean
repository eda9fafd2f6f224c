import Schemata.Text.Range

/-!
Constraints and indexes as tables declare them.
-/

namespace Schemata

inductive ConstraintKind
  | primaryKey
  | foreignKey
  | unique
  | check
deriving DecidableEq, Repr

namespace ConstraintKind

def label : ConstraintKind → Text
  | primaryKey => "PRIMARY_KEY".toList
  | foreignKey => "FOREIGN_KEY".toList
  | unique => "UNIQUE".toList
  | check => "CHECK".toList

def all : List ConstraintKind := [primaryKey, foreignKey, unique, check]

def ofLabel? (text : Text) : Option ConstraintKind :=
  all.find? fun kind => kind.label == text

end ConstraintKind

/-- A constraint of a table. The referenced table and columns belong to a foreign key; a foreign key
without referenced columns leaves them to be found. -/
structure Constraint where
  kind : ConstraintKind
  columns : List Text := []
  referencedTable : Option Text := none
  referencedColumns : List Text := []
  name : Option Text := none
  expression : Option Text := none
deriving DecidableEq, Repr

namespace Constraint

/-- The local columns, each with the referenced column in its place; a column without one takes the
first referenced column. -/
def columnPairs (constraint : Constraint) : List (Text × Text) :=
  match constraint.referencedColumns with
  | [] => []
  | first :: others =>
      constraint.columns.zipIdx.map fun (column, index) =>
        (column, (first :: others)[index]?.getD first)

end Constraint

structure IndexDefinition where
  columns : List Text
  name : Option Text := none
  unique : Bool := false
deriving DecidableEq, Repr

end Schemata
