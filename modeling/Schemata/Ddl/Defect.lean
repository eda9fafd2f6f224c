import Schemata.Text.Blank

/-!
What can be wrong with a statement. A `Defect` is a text that is not of the expected form; a `Fault`
is whatever ends the recognition of a statement, a recogniser that gives up included.
-/

namespace Schemata.Ddl

inductive Defect
  | tableHead
  | tableBodyOpen
  | tableNameEmpty
  | constraint (definition : Text)
  | index (definition : Text)
  | columnHead (definition : Text)
  | columnListOpen (definition : Text)
  | alterTable
  | createIndex
  | indexListOpen
  | noColumns (table : Text)
  | duplicateColumn (column : Text)
deriving DecidableEq, Repr

/-- The width to which messages cut the definition that they show. -/
def Defect.width : Int := 60

def Defect.message : Defect → Text
  | tableHead => "Unrecognized CREATE TABLE header or missing column list".toList
  | tableBodyOpen => "Unmatched parenthesis in CREATE TABLE body".toList
  | tableNameEmpty => "Empty table name".toList
  | constraint definition =>
      "Malformed constraint definition: ".toList ++ Text.excerpt width definition
  | index definition => "Malformed index definition: ".toList ++ Text.excerpt width definition
  | columnHead definition =>
      "Column definition needs a name and a type: ".toList ++ Text.excerpt width definition
  | columnListOpen definition =>
      "Unmatched parenthesis in column list: ".toList ++ Text.excerpt width definition
  | alterTable => "Unrecognized ALTER TABLE statement".toList
  | createIndex => "Unrecognized CREATE INDEX statement".toList
  | indexListOpen => "Unmatched parenthesis in CREATE INDEX column list".toList
  | noColumns table => "No column definitions found for table ".toList ++ table
  | duplicateColumn column => "Duplicate column ".toList ++ column ++ " ignored".toList

inductive Fault
  | defect (defect : Defect)
  /-- The recogniser does not offer what was asked of it. -/
  | unsupported
  /-- The recogniser broke down with a message of its own. -/
  | breakdown (message : Text)
deriving DecidableEq, Repr

namespace Fault

/-- The text of the fault, which may be empty. -/
def message : Fault → Text
  | defect d => d.message
  | unsupported => []
  | breakdown text => text

/-- The kind of fault, which stands in for an empty text. -/
def label : Fault → Text
  | defect _ => "DDLParseError".toList
  | unsupported => "NotImplementedError".toList
  | breakdown _ => "RuntimeError".toList

def description (fault : Fault) : Text :=
  if fault.message.isEmpty then fault.label else fault.message

end Fault

end Schemata.Ddl
