import Schemata.Proofs.Pipeline.Fates

/-!
What is noted of one statement, when it is read and when it is applied. The notes tell what became of
the statement, and how often they do is counted.
-/

namespace Schemata

open Ddl (Defect Dialect Draft Fault Reading StatementKind)
open Text (InLowerCase)

namespace Ddl.Reading

variable {dialect : Dialect} {statement : Text} {reading : Reading}

/-- A refusal is noted once, and every warning begins with the table that was read. -/
structure IsNoted (reading : Reading) : Prop where
  errors : reading.errors.length = if reading.accepted then 0 else 1
  warnings : ∀ warning ∈ reading.warnings, ∃ table message,
    reading.tableName = some table ∧ InLowerCase table ∧ warning = aboutTable table message

theorem IsNoted.fail (noted : reading.IsNoted) (accepted : reading.accepted = true) (fault : Fault) :
    (reading.fail fault).IsNoted where
  errors := by
    have clean := noted.errors
    rw [accepted, if_pos rfl] at clean
    simp [Reading.fail, List.eq_nil_of_length_eq_zero clean]
  warnings := noted.warnings

end Ddl.Reading

namespace Pipeline

/-! ### The diagnostics of one statement -/

/-- The diagnostic belongs to the statement with the index. -/
def isAt (index : Nat) (diagnostic : Diagnostic) : Bool :=
  diagnostic.statementIndex == some index

section Notes

variable {statement : Text} {reading : Reading} {index : Nat}

variable {registry : Registry}

end Notes

/-! ### Counting -/

/-- A warning whose message fits. -/
def warns (fits : Text → Bool) (diagnostic : Diagnostic) : Bool :=
  diagnostic.severity == .warning && fits diagnostic.message

def tellsRepeated (message : Text) : Bool :=
  "Duplicate table ".toList.isPrefixOf message

def tellsStray (reading : Reading) (message : Text) : Bool :=
  message == reading.kind.label ++ " targets unknown table ".toList ++ reading.tableName.getD []

section Counts

variable {earlier all : List Reading} {registry : Registry} {statement : Text} {reading : Reading}

/-- How often the notes of a statement tell of what became of it. -/
structure Tallies (notes : List Diagnostic) (reading : Reading) (fate : Fate) : Prop where
  errors : notes.countP isError = if fate = .refused then 1 else 0
  repeats : notes.countP (warns tellsRepeated) = if fate = .repeated then 1 else 0
  strays : notes.countP (warns (tellsStray reading)) = if fate = .stray then 1 else 0

theorem Tallies.append {notes others : List Diagnostic} {fate : Fate}
    (passed : Tallies notes reading .passed) (tallies : Tallies others reading fate) :
    Tallies (notes ++ others) reading fate where
  errors := by rw [List.countP_append, passed.errors, tallies.errors]; exact Nat.zero_add _
  repeats := by rw [List.countP_append, passed.repeats, tallies.repeats]; exact Nat.zero_add _
  strays := by rw [List.countP_append, passed.strays, tallies.strays]; exact Nat.zero_add _

theorem Tallies.created {notes : List Diagnostic} (passed : Tallies notes reading .passed) :
    Tallies notes reading .created :=
  ⟨passed.errors, passed.repeats, passed.strays⟩

end Counts

end Pipeline

end Schemata
