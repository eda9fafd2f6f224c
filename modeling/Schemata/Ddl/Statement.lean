import Schemata.Ddl.Defect
import Schemata.Ddl.Identifier
import Schemata.Schema.Constraint

/-!
Statements: which of the recognised kinds a text is, and the heads of `CREATE TABLE`, `ALTER TABLE`
and `CREATE INDEX`.
-/

namespace Schemata.Ddl

open Reader

inductive StatementKind
  | createTable
  | alterTable
  | createIndex
  | other
deriving DecidableEq, Repr

def StatementKind.label : StatementKind → Text
  | createTable => "create_table".toList
  | alterTable => "alter_table".toList
  | createIndex => "create_index".toList
  | other => "other".toList

/-- A keyword and the white space after it. -/
def keywordThenBlanks (letters : Text) : Reader Unit := do
  keyword letters
  blanks1

/-- Two keywords and the white space after each. -/
def keywordsThenBlanks (one other : Text) : Reader Unit := do
  keywordThenBlanks one
  keywordThenBlanks other

def ifNotExists : Reader Unit := do
  keywordThenBlanks "IF".toList
  keywordThenBlanks "NOT".toList
  keywordThenBlanks "EXISTS".toList

def temporary : Reader Unit :=
  either (do
      keyword "TEMP".toList
      let _ ← maybe (keyword "ORARY".toList)
      blanks1)
    (keywordThenBlanks "UNLOGGED".toList)

/-- The keywords of `CREATE TABLE`, with the modifiers that may stand between them. -/
def createTableKeywords : Reader Unit := do
  keywordThenBlanks "CREATE".toList
  let _ ← maybe (keywordsThenBlanks "OR".toList "REPLACE".toList)
  let _ ← maybe (either (keywordThenBlanks "GLOBAL".toList) (keywordThenBlanks "LOCAL".toList))
  let _ ← maybe temporary
  keyword "TABLE".toList

def clustering : Reader Unit :=
  either (keywordThenBlanks "CLUSTERED".toList) (keywordThenBlanks "NONCLUSTERED".toList)

/-- The keywords of `CREATE INDEX`, and whether the index is unique. -/
def createIndexKeywords : Reader Bool := do
  keywordThenBlanks "CREATE".toList
  let unique ← maybe (keywordThenBlanks "UNIQUE".toList)
  let _ ← maybe clustering
  keyword "INDEX".toList
  return unique.isSome

/-- The kind of a statement, by its leading keywords. -/
def classify (statement : Text) : StatementKind :=
  let text := Text.trimLeft statement
  if (do createTableKeywords; wordEnd : Reader Unit).accepts text then .createTable
  else if (do keywords "ALTER".toList "TABLE".toList; wordEnd : Reader Unit).accepts text then
    .alterTable
  else if (do let _ ← createIndexKeywords; wordEnd : Reader Unit).accepts text then .createIndex
  else .other

/-- The name of the table, up to the parenthesis of its body. -/
def createTableHead : Reader Text := do
  createTableKeywords
  blanks1
  let _ ← maybe ifNotExists
  let table ← captured qualifiedName
  blanks
  ahead '('
  return table.text

/-- The name and the body of the table that a statement creates. -/
def readCreateTable (statement : Text) : Except Defect (Text × Text) := do
  let some (written, fromBody) := createTableHead.first (Text.trim statement) | throw .tableHead
  let some (body, _) := Script.enclosed fromBody | throw .tableBodyOpen
  let table := normalizeIdentifier written
  if table.isEmpty then throw .tableNameEmpty
  return (table, body)

/-- An `ALTER TABLE` statement: its table and the constraints that it adds. -/
structure TableChange where
  table : Text
  added : List Text
deriving DecidableEq, Repr

def alterTableHead : Reader Text := do
  keywordsThenBlanks "ALTER".toList "TABLE".toList
  let _ ← maybe (keywordsThenBlanks "IF".toList "EXISTS".toList)
  let _ ← maybe (keywordThenBlanks "ONLY".toList)
  let table ← captured qualifiedName
  blanks1
  return table.text

/-- What follows the word `ADD` of an action. -/
def addedPart (action : Text) : Option Text :=
  ((keywordThenBlanks "ADD".toList).first action).map (·.2)

structure IndexCreation where
  table : Text
  index : IndexDefinition
deriving DecidableEq, Repr

structure IndexHead where
  unique : Bool
  name : Option Text
  table : Text

def createIndexHead : Reader IndexHead := do
  let unique ← createIndexKeywords
  blanks1
  let _ ← maybe (keywordThenBlanks "CONCURRENTLY".toList)
  let _ ← maybe ifNotExists
  let index ← maybe (do
    let written ← captured qualifiedName
    blanks1
    return written)
  keywordThenBlanks "ON".toList
  let _ ← maybe (keywordThenBlanks "ONLY".toList)
  let table ← captured qualifiedName
  blanks
  let _ ← maybe (do
    keywordThenBlanks "USING".toList
    run1 Text.isWordChar
    blanks)
  ahead '('
  return ⟨unique, index.map Span.text, table.text⟩

def readCreateIndex (statement : Text) : Except Defect IndexCreation := do
  let some (head, fromList) := createIndexHead.first (Text.trim statement) | throw .createIndex
  let some (list, _) := Script.enclosed fromList | throw .indexListOpen
  return {
    table := normalizeIdentifier head.table
    index := {
      columns := columnList (Text.trim list)
      name := head.name.map normalizeIdentifier
      unique := head.unique } }

end Schemata.Ddl
