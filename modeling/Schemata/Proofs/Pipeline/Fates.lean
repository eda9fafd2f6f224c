import Schemata.Proofs.Pipeline.Completion
import Schemata.Proofs.Pipeline.Notes

/-!
What becomes of each statement of a script. A table statement is refused, repeats a name or creates a
table; a change is refused, strays or is applied; and nothing becomes of other statements.
-/

namespace Schemata

open Ddl (Dialect Reading)

/-- What becomes of a statement. -/
inductive Fate
  | refused
  | created
  | repeated
  | applied
  | stray
  | passed
deriving DecidableEq, Repr

/-- A statement with its reading and what becomes of it. -/
structure Account where
  statement : Text
  reading : Reading
  fate : Fate

/-- The table that a statement creates. -/
def Account.table (account : Account) : Option TableMetadata :=
  if account.fate = .created then account.reading.created else none

namespace Pipeline

/-- The readings of statements, by what may become of them. -/
inductive FateCases (earlier all : List Reading) (reading : Reading) : Fate → Prop
  | refused (accepted : reading.accepted = false) (changes : reading.changes = false)
      (created : reading.created = none) : FateCases earlier all reading .refused
  | change (accepted : reading.accepted = true) (changes : reading.changes = true)
      (created : reading.created = none) :
      FateCases earlier all reading
        (if takes all (reading.tableName.getD []) then .applied else .stray)
  | table (metadata : TableMetadata) (accepted : reading.accepted = true)
      (changes : reading.changes = false) (created : reading.created = some metadata) :
      FateCases earlier all reading
        (if takes earlier metadata.name then .repeated else .created)
  | passed (accepted : reading.accepted = true) (changes : reading.changes = false)
      (created : reading.created = none) : FateCases earlier all reading .passed

namespace FateCases

variable {earlier all : List Reading} {reading : Reading} {fate : Fate}

theorem exists_table (becomes : FateCases earlier all reading fate) (isCreated : fate = .created) :
    ∃ metadata, reading.created = some metadata := by
  cases becomes with
  | refused => cases isCreated
  | change => cases taken : takes all (reading.tableName.getD []) <;> simp [taken] at isCreated
  | table metadata _ _ created => exact ⟨metadata, created⟩
  | passed => cases isCreated

end FateCases

end Pipeline

end Schemata
