import Schemata.Ddl.Reading
import Schemata.Proofs.Script.Spelling

/-!
Table statements as people write them: bare names, types with or without parameters, and keys in the
usual places. Each part has its tokens, and what is declared by it.
-/

namespace Schemata.Ddl

open Text Script

/-- Words, in lower case, that do not serve as names. -/
def reserved : List Text :=
  ["primary".toList, "foreign".toList, "unique".toList, "check".toList, "constraint".toList, "key".toList,
   "index".toList, "fulltext".toList, "spatial".toList, "references".toList, "not".toList, "null".toList]

/-- Letters, digits and the underscore of ASCII. -/
def isNameChar (c : Char) : Bool :=
  c.isAlphanum || c == '_'

/-- A bare name that is no reserved word in either case. -/
structure WrittenName where
  text : Text
  starts : ∃ c ∈ text.head?, startsName c = true := by decide
  plain : ∀ c ∈ text, isNameChar c = true := by decide
  free : folded text ∉ reserved := by decide

/-- The name without regard to case. -/
def WrittenName.name (written : WrittenName) : Text :=
  lower written.text

/-- Names in parentheses, with commas between them. -/
def listTokens (names : List WrittenName) : List Text :=
  ['('] :: [[',']].intercalate (names.map fun written => [written.text]) ++ [[')']]

/-- A type is a word such as one of letters, possibly with a list of parameters such as numbers right
behind it. -/
structure WrittenType where
  word : Text
  parameters : Option (List Text) := none
  some' : word ≠ [] := by decide
  unblank : ∀ c ∈ word, isBlank c = false := by decide
  plain : ∀ c ∈ word, isPlain c = true := by decide
  plainParameters : ∀ parameter ∈ parameters.getD [], ∀ c ∈ parameter, isPlain c = true := by decide

def WrittenType.text (type : WrittenType) : Text :=
  match type.parameters with
  | none => type.word
  | some parameters => type.word ++ '(' :: ", ".toList.intercalate parameters ++ [')']

/-- The words of a clause, if it is there. -/
def clause (present : Bool) (words : List Text) : List Text :=
  if present then words else []

def referenceClause : Option (WrittenName × WrittenName) → List Text
  | some (table, referenced) => "REFERENCES".toList :: table.text :: listTokens [referenced]
  | none => []

structure WrittenColumn where
  name : WrittenName
  type : WrittenType
  notNull : Bool := false
  primaryKey : Bool := false
  unique : Bool := false
  references : Option (WrittenName × WrittenName) := none

namespace WrittenColumn

def clauses (column : WrittenColumn) : List Text :=
  clause column.notNull ["NOT".toList, "NULL".toList] ++
    (clause column.primaryKey ["PRIMARY".toList, "KEY".toList] ++
      (clause column.unique ["UNIQUE".toList] ++ referenceClause column.references))

def tokens (column : WrittenColumn) : List Text :=
  column.name.text :: column.type.text :: column.clauses

def definition (column : WrittenColumn) : ColumnDefinition where
  name := column.name.name
  dataType := column.type.text
  notNull := column.notNull
  primaryKey := column.primaryKey
  unique := column.unique
  references := column.references.map fun (table, referenced) => (table.name, [referenced.name])

def column (written : WrittenColumn) : Column where
  name := written.name.name
  dataType := written.type.text
  nullable := !written.notNull
  primaryKey := written.primaryKey

/-- The constraints that stand in the definition, but for a mark of the primary key. -/
def constraints (column : WrittenColumn) : List Constraint :=
  (if column.unique then [{ kind := .unique, columns := [column.name.name] }] else []) ++
  (match column.references with
    | some (table, referenced) =>
        [{ kind := .foreignKey, columns := [column.name.name], referencedTable := some table.name,
           referencedColumns := [referenced.name] }]
    | none => [])

end WrittenColumn

inductive WrittenConstraint
  | primaryKey (columns : List WrittenName)
  | unique (columns : List WrittenName)
  | foreignKey (columns : List WrittenName) (table : WrittenName) (referenced : List WrittenName)

namespace WrittenConstraint

def tokens : WrittenConstraint → List Text
  | primaryKey columns => "PRIMARY".toList :: "KEY".toList :: listTokens columns
  | unique columns => "UNIQUE".toList :: listTokens columns
  | foreignKey columns table referenced =>
      "FOREIGN".toList :: "KEY".toList :: listTokens columns ++
        "REFERENCES".toList :: table.text :: listTokens referenced

/-- The constraint under the name that is given to it, if there is one. -/
def declared (name : Option WrittenName) : WrittenConstraint → Constraint
  | primaryKey columns =>
      { kind := .primaryKey, columns := columns.map WrittenName.name, name := name.map WrittenName.name }
  | unique columns =>
      { kind := .unique, columns := columns.map WrittenName.name, name := name.map WrittenName.name }
  | foreignKey columns table referenced =>
      { kind := .foreignKey
        columns := columns.map WrittenName.name
        referencedTable := some table.name
        referencedColumns := referenced.map WrittenName.name
        name := name.map WrittenName.name }

end WrittenConstraint

inductive WrittenEntry
  | column (column : WrittenColumn)
  | constraint (name : Option WrittenName) (constraint : WrittenConstraint)

namespace WrittenEntry

def tokens : WrittenEntry → List Text
  | .column written => written.tokens
  | .constraint none written => written.tokens
  | .constraint (some name) written => "CONSTRAINT".toList :: name.text :: written.tokens

def column? : WrittenEntry → Option WrittenColumn
  | .column written => some written
  | .constraint _ _ => none

/-- The constraints that the entry declares, in the order of the text. -/
def constraints : WrittenEntry → List Constraint
  | .column written => written.constraints
  | .constraint name written => [written.declared name]

def read : WrittenEntry → Entry
  | .column written => .column written.definition
  | .constraint name written => .constraint (written.declared name)

end WrittenEntry

/-- A table with a column at least. Its columns differ in more than case. -/
structure WrittenTable where
  name : WrittenName
  entries : List WrittenEntry
  some' : entries.filterMap WrittenEntry.column? ≠ [] := by decide
  distinct : ((entries.filterMap WrittenEntry.column?).map fun column => column.name.name).Nodup := by decide

namespace WrittenTable

variable (table : WrittenTable)

def tokens : List Text :=
  "CREATE".toList :: "TABLE".toList :: table.name.text ::
    (['('] :: [[',']].intercalate (table.entries.map WrittenEntry.tokens) ++ [[')']])

def columns : List WrittenColumn :=
  table.entries.filterMap WrittenEntry.column?

/-- The columns that are marked as the primary key. -/
def markedKey : List Text :=
  (table.columns.filter WrittenColumn.primaryKey).map fun column => column.name.name

/-- The primary keys that stand on their own. -/
def declaredKeys : List Constraint :=
  (table.entries.flatMap WrittenEntry.constraints).filter fun constraint => constraint.kind == .primaryKey

/-- The columns of the primary key: those that are marked, then those of the keys that stand on their own,
each once. -/
def keyColumns : List Text :=
  (table.markedKey ++ table.declaredKeys.flatMap Constraint.columns).eraseDups

/-- All constraints: the primary key, if there is one, under the first name given to it, and the others in
the order of the text. -/
def constraints : List Constraint :=
  (if table.markedKey.isEmpty && table.declaredKeys.isEmpty then []
    else [{ kind := .primaryKey, columns := table.keyColumns, name := table.declaredKeys.findSome? Constraint.name }]) ++
  (table.entries.flatMap WrittenEntry.constraints).filter fun constraint => constraint.kind != .primaryKey

/-- The primary key is declared in more than one place; all marks are one place. -/
def hasSeveralKeys : Bool :=
  1 < table.declaredKeys.length + (if table.markedKey.isEmpty then 0 else 1)

def warnings : List Text :=
  if table.hasSeveralKeys then [Reading.aboutTable table.name.name Reading.severalKeys] else []

/-- The table before its constraints show in the flags of its columns. -/
def unflagged : TableMetadata where
  table := ⟨table.name.name, table.columns.map WrittenColumn.column⟩
  constraints := table.constraints

end WrittenTable

end Schemata.Ddl
