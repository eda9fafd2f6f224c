import Schemata.Ddl.Statement

/-!
The definitions in the body of a table: columns, keys, checks and indexes.
-/

namespace Schemata.Ddl

open Reader

inductive DefinitionKind
  | primaryKey
  | foreignKey
  | unique
  | check
  | constraint
  | index
  | column
deriving DecidableEq, Repr

def DefinitionKind.label : DefinitionKind → Text
  | primaryKey => "primary_key".toList
  | foreignKey => "foreign_key".toList
  | unique => "unique".toList
  | check => "check".toList
  | constraint => "constraint".toList
  | index => "index".toList
  | column => "column".toList

/-- Two words in capitals, the second a whole one. -/
def capitals (one other : Text) : Reader Unit := do
  exactly one
  blanks1
  exactly other
  wordEnd

/-- The kinds that the first words of a definition decide, given in capitals. -/
def headKind (capitalized : Text) : Option DefinitionKind :=
  if (capitals "PRIMARY".toList "KEY".toList).accepts capitalized then some .primaryKey
  else if (capitals "FOREIGN".toList "KEY".toList).accepts capitalized then some .foreignKey
  else if (do exactly "CONSTRAINT".toList; blanks1 : Reader Unit).accepts capitalized then
    some .constraint
  else if (do exactly "UNIQUE".toList; wordEnd : Reader Unit).accepts capitalized then some .unique
  else if (do exactly "CHECK".toList; blanks; ahead '(' : Reader Unit).accepts capitalized then
    some .check
  else none

def indexKeywords : Reader Unit := do
  let _ ← maybe (either (keywordThenBlanks "FULLTEXT".toList) (keywordThenBlanks "SPATIAL".toList))
  either (keyword "KEY".toList) (keyword "INDEX".toList)

/-- A name, or none, before the parenthesis of a column list. -/
def listHead : Reader Unit := do
  blanks
  let _ ← maybe (do
    name
    blanks)
  ahead '('

/-- An index definition up to its column list. -/
def indexHead : Reader Unit := do
  indexKeywords
  listHead

/-- The name of an index definition that has one. -/
def indexName : Reader Text := do
  indexKeywords
  blanks1
  let written ← captured name
  blanks
  ahead '('
  return written.text

/-- Every item begins with an identifier, and there is one at least. -/
def isColumnList (list : Text) : Bool :=
  let entries := (Script.items list).map Text.trim
  !entries.isEmpty && entries.all fun entry => (identifier startsName).accepts entry

/-- An index differs from a column called `key` or `index` in the list after it. -/
def definesIndex (definition : Text) : Bool :=
  match indexHead.first definition with
  | none => false
  | some (_, fromList) =>
      match Script.enclosed fromList with
      | none => false
      | some (list, _) => isColumnList (Text.trim list)

/-- The kind of a definition, by its leading keywords. -/
def classifyDefinition (definition : Text) : DefinitionKind :=
  let text := Text.trimLeft definition
  match headKind (Text.upper text) with
  | some kind => kind
  | none => if definesIndex text then .index else .column

/-- The columns of the list at whose parenthesis a text starts. -/
def columnsFrom (definition fromList : Text) : Except Defect (List Text) :=
  match Script.enclosed fromList with
  | none => throw (.columnListOpen definition)
  | some (list, _) => return columnList (Text.trim list)

def readIndexDefinition (definition : Text) : Except Defect IndexDefinition := do
  let text := Text.trim definition
  let some (_, fromList) := indexHead.first text | throw (.index definition)
  let columns ← columnsFrom text fromList
  return { columns, name := (indexName.first text).map fun (written, _) => normalizeIdentifier written }

end Schemata.Ddl
