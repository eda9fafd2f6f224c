import Schemata.Ddl.TableConstraint

/-!
Column definitions: a name, a type, and the constraints written after them.
-/

namespace Schemata.Ddl

open Reader

/-- What a column definition declares. -/
structure ColumnDefinition where
  name : Text
  dataType : Text
  notNull : Bool := false
  primaryKey : Bool := false
  unique : Bool := false
  references : Option (Text × List Text) := none
  check : Option Text := none
deriving DecidableEq, Repr

/-- The name of the column and the first word of its type. -/
def columnHead : Reader (Span × Span) := do
  let written ← captured (identifier startsName)
  blanks1
  let word ← captured (run1 fun c => !Text.isBlank c)
  return (written, word)

/-- The type and what follows it. A parameter list that the first word opens and does not close is
part of the type up to its closing parenthesis. -/
def splitType (word rest : Text) : Text × Text :=
  if word.count ')' < word.count '(' then
    let (before, fromList) := (word ++ rest).span (· != '(')
    match Script.enclosed fromList with
    | some (list, after) => (before ++ '(' :: list ++ [')'], after)
    | none => (word, rest)
  else (word, rest)

/-- What follows the literal whose opening quote has been read. Two quotes in a row stand for one, if
a quote that closes the literal comes later. -/
def afterLiteral : Text → Option Text
  | [] => none
  | '\'' :: '\'' :: rest => afterLiteral rest <|> some ('\'' :: rest)
  | '\'' :: rest => some rest
  | _ :: rest => afterLiteral rest

/-- A literal in single quotes. -/
def literal : Reader Unit
  | '\'' :: rest => ((afterLiteral rest).map fun left => ((), left)).toList
  | _ => []

/-- A text in which every literal is empty, so that its words cannot be taken for keywords. -/
def withoutLiterals (text : Text) : Text :=
  literal.replaced "''".toList text

def wholeKeywords (one other : Text) : Reader Unit := do
  keywords one other
  wordEnd

def parenthesized : Reader Text := do
  let _ ← char (· == '(')
  let inside ← captured (run (· != ')'))
  let _ ← char (· == ')')
  return inside.text

/-- The table of an inline reference, and the list of its columns as written. -/
def inlineReference : Reader (Text × Text) := do
  keywordThenBlanks "REFERENCES".toList
  let table ← captured qualifiedName
  blanks
  let columns ← maybe parenthesized
  return (table.text, columns.getD [])

/-- The column and the constraints in the text after the type. -/
def readColumnConstraints (name dataType rest : Text) : ColumnDefinition :=
  { name
    dataType
    notNull := ((wholeKeywords "NOT".toList "NULL".toList).find false rest).isSome
    primaryKey := ((wholeKeywords "PRIMARY".toList "KEY".toList).find false rest).isSome
    unique := ((do keyword "UNIQUE".toList; wordEnd : Reader Unit).find false rest).isSome
    references := (inlineReference.find false rest).map fun ((table, columns), _) =>
      (normalizeIdentifier table, columnList columns)
    check := (checkHead.find false rest).bind fun (_, fromBody) =>
      (Script.enclosed fromBody).map fun (body, _) => Text.trim body }

def readColumn (definition : Text) : Except Defect ColumnDefinition := do
  let some ((written, word), rest) := columnHead.first (Text.trim definition)
    | throw (.columnHead definition)
  let (dataType, after) := splitType word.text rest
  return readColumnConstraints (normalizeIdentifier written.text) dataType (withoutLiterals after)

end Schemata.Ddl
