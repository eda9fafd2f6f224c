import Schemata.Text.Blank
import Schemata.Text.Word
import Schemata.Text.Case
import Schemata.Text.Quoted
import Schemata.Script.Pieces
import Schemata.Ddl.Identifier
import Schemata.Schema.Constraint
import Schemata.Ddl.ColumnDefinition
import Schemata.Schema.Result
import Schemata.Pipeline
import Schemata.Document.Double
import Schemata.Document.Access
import Schemata.Config.Decode
import Schemata.Document.Stored
import Schemata.Document.Json
import Schemata.Yaml.Class
import Schemata.Yaml.Implicit
import Schemata.Yaml.Write
import Schemata.Yaml.Read
import Schemata.Document.Format
import Schemata.Document.Load
import Schemata.Report
import Schemata.Command.Run
import Schemata.Main
import Schemata.Proofs.Inference.Distinct
import Schemata.Proofs.Inference.Engine
import Schemata.Proofs.Pipeline.Statements
import Schemata.Proofs.Ddl.Names
import Schemata.Proofs.Schema.Flags
import Schemata.Proofs.Ddl.TableBody
import Schemata.Proofs.Inference.References
import Schemata.Proofs.Pipeline.Agreement
import Schemata.Proofs.Pipeline.ForeignKeys
import Schemata.Proofs.Inference.Calls
import Schemata.Proofs.Pipeline.Completion
import Schemata.Proofs.Yaml.Place
import Schemata.Proofs.Yaml.Plain
import Schemata.Proofs.Document.Json
import Schemata.Proofs.Pipeline.Storing
import Schemata.Proofs.Pipeline.Notes
import Schemata.Proofs.Pipeline.Breakdown
import Schemata.Proofs.Pipeline.Fates
import Schemata.Proofs.Pipeline.Tallies
import Schemata.Proofs.Pipeline.Accounts
import Schemata.Proofs.Pipeline.Calls
import Schemata.Proofs.Inference.Faults
import Schemata.Proofs.Script.Pieces
import Schemata.Proofs.Reader.Folded
import Schemata.Proofs.Ddl.FoldedReaders
import Schemata.Proofs.Ddl.FoldedDefinitions
import Schemata.Proofs.Ddl.FoldedTables
import Schemata.Proofs.Inference.Folded
import Schemata.Proofs.Pipeline.Folded
import Schemata.Proofs.Ddl.Written
import Schemata.Proofs.Ddl.WrittenColumns
import Schemata.Proofs.Ddl.WrittenTables
import Schemata.Proofs.Script.Separated
import Schemata.Proofs.Script.Comments
import Schemata.Proofs.Script.Statements
import Schemata.Proofs.Pipeline.Options
import Schemata.Proofs.Ddl.TableHeads
import Schemata.Proofs.Script.Balanced
import Schemata.Proofs.Ddl.LongerBody
import Schemata.Proofs.Ddl.AddedConstraint
import Schemata.Proofs.Pipeline.Additions
import Schemata.Proofs.Pipeline.SelfLinks
import Schemata.Proofs.Document.Shapes
import Schemata.Proofs.Document.Refusals
import Schemata.Proofs.Command.Delivery
import Schemata.Proofs.Ddl.Literals
import Schemata.Proofs.Ddl.Identifiers
import Schemata.Proofs.Reader.Mentions
import Schemata.Proofs.Ddl.ColumnTypes
import Schemata.Proofs.Ddl.ColumnClauses
import Schemata.Proofs.Ddl.InlineChecks
import Schemata.Proofs.Ddl.Signs
import Schemata.Proofs.Ddl.QuotedNames
import Schemata.Proofs.Ddl.InlineReferences
import Schemata.Proofs.Ddl.FirstWords
import Schemata.Proofs.Ddl.AlterActions
import Schemata.Proofs.Ddl.BodyEntries
import Schemata.Proofs.Ddl.Classified
import Schemata.Proofs.Ddl.QualifiedNames
import Schemata.Proofs.Ddl.ColumnLists
import Schemata.Proofs.Inference.Reported
import Schemata.Proofs.Inference.Findings
import Schemata.Proofs.Inference.Reordered
import Schemata.Proofs.Inference.Resolution
import Schemata.Proofs.Pipeline.Encoding
import Schemata.Proofs.Script.Enclosed
import Schemata.Proofs.Script.Cuts
import Schemata.Proofs.Inference.Compatibility
