import Schemata.Document.Stored
import Schemata.Layout.Grid

/-!
The report of a result: its tables, its relationships, its diagnostics and a summary. Stored values
of an odd kind can keep a part from being shown; what stands before that part is still printed.
-/

namespace Schemata

inductive ReportError
  | markup (cause : Layout.MarkupError)
  | access (cause : AccessError)
  /-- A value of this kind cannot stand in a cell. -/
  | unprintable (kind : Text)
  /-- Half of a surrogate pair has no encoding. -/
  | unencodable
deriving Repr

def ReportError.message : ReportError → Text
  | markup cause => cause.message
  | access cause => cause.message
  | unprintable kind =>
      "unable to render ".toList ++ kind ++
        "; a string or other renderable object is required".toList
  | unencodable => "surrogates not allowed".toList

/-- A text as far as it could be printed, and what stopped it. -/
structure Printed (ε : Type) where
  text : Text := []
  failure : Option ε := none

namespace Printed

/-- The sections in turn, up to the first one that fails. -/
def ofSections {ε : Type} : List (Except ε Text) → Printed ε
  | [] => {}
  | .error failure :: _ => { failure := some failure }
  | .ok text :: rest =>
      let others := ofSections rest
      { others with text := text ++ others.text }

end Printed

namespace Report

/-- A value as a cell; null leaves the cell empty. -/
def cell (value : Value) : Except ReportError Text :=
  match value with
  | .text s => return s
  | .null => return []
  | other => throw (.unprintable other.kindName)

def checkKey (value : Value) : Except ReportError Unit :=
  value.checkKey.mapError .access

/-- Names that are to be joined have to be texts. -/
def nameText (value : Value) : Except ReportError Text :=
  match value with
  | .text s => return s
  | other => throw (.access (.wrongShape
      ("expected str instance, ".toList ++ other.kindName ++ " found".toList)))

def numberText (n : Nat) : Text :=
  Value.integerText n

/-- A text that is to be printed needs an encoding. -/
def encodable (s : Text) : Except ReportError Text :=
  if s.any Text.standsForHalf then throw .unencodable else return s

def grid (title : String) (headings : List (String × Layout.Alignment)) (rows : List (List Text)) :
    Except ReportError Text := do
  encodable (← (Layout.Grid.render
    { title := title.toList
      headings := headings.map fun (title, alignment) => ⟨title.toList, alignment⟩
      rows }).mapError .markup)

def line (s : Text) : Except ReportError Text := do
  encodable (← (Layout.printed s).mapError .markup)

def tableRow (junctions : List Value) (table : Stored.Table) : Except ReportError (List Text) := do
  let key := (table.columns.filter fun column => column.primaryKey.isGiven).map Stored.Column.name
  let references := table.columns.countP fun column => column.foreignKey.isSome
  let keyNames ← key.mapM nameText
  checkKey table.name
  return [
    ← cell table.name,
    numberText table.columns.length,
    if keyNames.isEmpty then ['-'] else List.intercalate ", ".toList keyNames,
    numberText references,
    if junctions.contains table.name then "yes".toList else []]

def tables (result : Stored.Result) : Except ReportError Text := do
  result.junctionTables.forM checkKey
  grid "Tables"
    [("Table", .left), ("Columns", .right), ("PK", .left), ("FKs", .right), ("Junction", .left)]
    (← result.schema.tables.mapM (tableRow result.junctionTables))

/-- The names of a reference with a dot between them. -/
def referenceText (reference : Stored.Reference) : Except ReportError Text :=
  (do return (← reference.table.toText) ++ '.' :: (← reference.column.toText)).mapError .access

def relationshipRow (relationship : Stored.Relationship) : Except ReportError (List Text) := do
  let junction := relationship.junctionTable
  return [
    ← referenceText relationship.source,
    ← referenceText relationship.target,
    relationship.cardinality.label,
    ← cell (if junction.isGiven then junction else .text ['-']),
    ← cell relationship.origin]

def relationships (result : Stored.Result) : Except ReportError Text := do
  if result.schema.relationships.isEmpty then return "\nNo relationships found.\n".toList
  grid "Relationships"
    [("From", .left), ("To", .left), ("Cardinality", .left), ("Via", .left), ("Origin", .left)]
    (← result.schema.relationships.mapM relationshipRow)

/-- Statements are counted from one. -/
def statementNumber (index : Value) : Except ReportError Text :=
  match index with
  | .null => return ['-']
  | .int n => (Value.toText (.int (n + 1))).mapError .access
  | .bool b => return Value.integerText (Value.amount b + 1)
  | .float x => return x.next.text
  | _ => throw (.access (.wrongShape "an index has to be a number".toList))

def diagnosticRow (diagnostic : Stored.Diagnostic) : Except ReportError (List Text) := do
  let number ← statementNumber diagnostic.statementIndex
  let message ← nameText diagnostic.message
  return [number, diagnostic.severity.label, Layout.Markup.escape message]

def diagnostics (result : Stored.Result) : Except ReportError Text := do
  if result.diagnostics.isEmpty then return []
  grid "Diagnostics" [("Statement", .right), ("Severity", .left), ("Message", .left)]
    (← result.diagnostics.mapM diagnosticRow)

/-- The counts, and whether the result is complete. -/
def summary (result : Stored.Result) : Text :=
  '\n' :: numberText result.schema.tables.length ++ " tables, ".toList ++
    numberText result.schema.relationships.length ++ " relationships".toList ++
    (if result.isComplete then [] else " (partial: see diagnostics)".toList) ++ ['\n']

/-- The sections of a report, in their order. -/
def sections (result : Stored.Result) : List (Except ReportError Text) :=
  [tables result, relationships result, diagnostics result, .ok (summary result)]

end Report

end Schemata
