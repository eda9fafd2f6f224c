import Schemata.Ddl.Definition

/-!
Constraints that stand in the body of a table on their own, or that `ALTER TABLE` adds.
-/

namespace Schemata.Ddl

open Reader

/-- The name that `CONSTRAINT` gives, and what follows it. -/
def namedConstraint : Reader Text := do
  keywordThenBlanks "CONSTRAINT".toList
  let written ← captured name
  blanks1
  return written.text

def primaryKeyHead : Reader Unit := do
  keywords "PRIMARY".toList "KEY".toList
  blanks
  let _ ← maybe (do
    either (keyword "CLUSTERED".toList) (keyword "NONCLUSTERED".toList)
    blanks)
  ahead '('

def foreignKeyHead : Reader Unit := do
  keywords "FOREIGN".toList "KEY".toList
  listHead

/-- The table after `REFERENCES`. -/
def referencesClause : Reader Text := do
  blanks
  keywordThenBlanks "REFERENCES".toList
  let table ← captured qualifiedName
  blanks
  return table.text

def uniqueHead : Reader Unit := do
  keyword "UNIQUE".toList
  let _ ← maybe (do
    blanks1
    either (keyword "KEY".toList) (keyword "INDEX".toList))
  listHead

def checkHead : Reader Unit := do
  keyword "CHECK".toList
  blanks
  ahead '('

/-- The foreign key whose column list a text starts at; `none` if its parts are not all there. -/
def readForeignKey (definition fromList : Text) : Except Defect (Option Constraint) :=
  match Script.enclosed fromList with
  | none => return none
  | some (list, afterList) =>
      match referencesClause.first afterList with
      | none => return none
      | some (table, afterTable) => do
          let referenced ←
            if afterTable.head? = some '(' then columnsFrom definition afterTable else pure []
          return some {
            kind := .foreignKey
            columns := columnList list
            referencedTable := some (normalizeIdentifier table)
            referencedColumns := referenced }

/-- The constraint of the kind that the definition begins with; `none` if it is malformed. -/
def readConstraintOf (kind : DefinitionKind) (text : Text) : Except Defect (Option Constraint) := do
  match kind with
  | .primaryKey =>
      match primaryKeyHead.first text with
      | none => return none
      | some (_, fromList) =>
          return some { kind := .primaryKey, columns := ← columnsFrom text fromList }
  | .foreignKey =>
      match foreignKeyHead.first text with
      | none => return none
      | some (_, fromList) => readForeignKey text fromList
  | .unique =>
      match uniqueHead.first text with
      | none => return none
      | some (_, fromList) =>
          return some { kind := .unique, columns := ← columnsFrom text fromList }
  | .check =>
      match checkHead.first text with
      | none => return none
      | some (_, fromBody) =>
          return (Script.enclosed fromBody).map fun (body, _) =>
            { kind := .check, columns := [], expression := some (Text.trim body) }
  | _ => return none

/-- The name of a named constraint, and the definition without it. -/
def splitName (definition : Text) : Option Text × Text :=
  let text := Text.trim definition
  match namedConstraint.first text with
  | some (written, rest) => (some (normalizeIdentifier written), Text.trim rest)
  | none => (none, text)

end Schemata.Ddl
