import Schemata.Schema.Relationship
import Schemata.Schema.Table

/-!
What a run over a script gives: the schema, the junction tables and the diagnostics.
-/

namespace Schemata

inductive Severity
  | warning
  | error
deriving DecidableEq, Repr

namespace Severity

def label : Severity → Text
  | warning => "warning".toList
  | error => "error".toList

def all : List Severity := [warning, error]

def ofLabel? (text : Text) : Option Severity :=
  all.find? fun severity => severity.label == text

theorem ofLabel?_label (severity : Severity) : ofLabel? severity.label = some severity := by
  cases severity <;> decide

end Severity

/-- A problem that did not end the run. One that belongs to no statement has no index. -/
structure Diagnostic where
  message : Text
  statementIndex : Option Nat := none
  severity : Severity := .warning
  statement : Option Text := none
deriving DecidableEq, Repr

structure Result where
  tables : List Table := []
  relationships : List Relationship := []
  junctionTables : List Text := []
  diagnostics : List Diagnostic := []
deriving DecidableEq, Repr

/-- No error was recorded. -/
def Result.isComplete (result : Result) : Bool :=
  result.diagnostics.all fun diagnostic => diagnostic.severity != .error

end Schemata
