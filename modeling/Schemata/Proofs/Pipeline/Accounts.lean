import Schemata.Proofs.Pipeline.Storing
import Schemata.Proofs.Pipeline.Tallies

/-!
A run accounts for every statement of its script: the tables of the result and its diagnostics show what
became of each.
-/

namespace Schemata

open Ddl (Dialect Fault Reading StatementKind)
open Text (InLowerCase)

namespace Pipeline

section Script

variable {script : Text} {account : Account}

theorem inferSchema_tables (config : Config) (script : Text) : (inferSchema config script).tables =
    tablesOf (registryIn Dialect.standard Ddl.classify script).resolveImplicitReferences := by
  obtain ⟨final, _, _, ran⟩ := run_stages Dialect.standard_classifies script
  simp only [inferSchema, ran, infer_rules, tablesOf]

end Script

end Pipeline

end Schemata
