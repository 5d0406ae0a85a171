import Relvar.Arguments
import Relvar.Binary64.Basic
import Relvar.Binary64.Places
import Relvar.Binary64.Shortest
import Relvar.Binary64.Text
import Relvar.Binary64.Written
import Relvar.Calendar.Date
import Relvar.Calendar.Moment
import Relvar.Calendar.Written
import Relvar.Catalogue
import Relvar.Column
import Relvar.CommandLine.Deployment
import Relvar.CommandLine.Help
import Relvar.CommandLine.Option
import Relvar.CommandLine.Request
import Relvar.CommandLine.Token
import Relvar.Compiled
import Relvar.Compiler
import Relvar.Database.Connection
import Relvar.Database.Event
import Relvar.Decimal.Numeral
import Relvar.Decimal.Whole
import Relvar.Declaration.Basic
import Relvar.Declaration.Error
import Relvar.Declaration.Shape
import Relvar.Executor
import Relvar.Fault
import Relvar.Field.Basic
import Relvar.Field.Extract
import Relvar.Field.Modifier
import Relvar.Field.Parts
import Relvar.Field.TypeName
import Relvar.FieldType
import Relvar.Generated.Constant
import Relvar.Generated.Module
import Relvar.Instance
import Relvar.Invalid
import Relvar.Key
import Relvar.Log.Context
import Relvar.Log.Format
import Relvar.Log.Pattern
import Relvar.Log.Record
import Relvar.Log.Setup
import Relvar.Main
import Relvar.Migration
import Relvar.Path
import Relvar.Proofs.Arguments
import Relvar.Proofs.Calendar.Count
import Relvar.Proofs.Calendar.Iso
import Relvar.Proofs.Calendar.Order
import Relvar.Proofs.Calls
import Relvar.Proofs.CommandLine.Outcome
import Relvar.Proofs.CommandLine.Preparation
import Relvar.Proofs.CommandLine.Report
import Relvar.Proofs.CommandLine.Request
import Relvar.Proofs.CommandLine.Sparing
import Relvar.Proofs.Compilation.Arguments
import Relvar.Proofs.Compilation.Attribution
import Relvar.Proofs.Compilation.Draft
import Relvar.Proofs.Compilation.Log
import Relvar.Proofs.Compilation.Phases
import Relvar.Proofs.Compilation.Result
import Relvar.Proofs.Compilation.Validity
import Relvar.Proofs.Connections
import Relvar.Proofs.Database.Address
import Relvar.Proofs.Database.Course
import Relvar.Proofs.Database.Sending
import Relvar.Proofs.Database.Steady
import Relvar.Proofs.Database.Target
import Relvar.Proofs.Database.Uri
import Relvar.Proofs.Decimal
import Relvar.Proofs.Declaration.Mapping
import Relvar.Proofs.Declaration.Order
import Relvar.Proofs.Declaration.Refusal
import Relvar.Proofs.Discipline
import Relvar.Proofs.DryRun
import Relvar.Proofs.Encoding
import Relvar.Proofs.Encoding.Boolean
import Relvar.Proofs.Encoding.Order
import Relvar.Proofs.Execution
import Relvar.Proofs.Field.Extract
import Relvar.Proofs.Field.Modifier
import Relvar.Proofs.Field.Order
import Relvar.Proofs.Field.TextualType
import Relvar.Proofs.Field.TypeName
import Relvar.Proofs.Generated.Constant
import Relvar.Proofs.Generated.Distinct
import Relvar.Proofs.Generated.Line
import Relvar.Proofs.Generated.Module
import Relvar.Proofs.Happenings
import Relvar.Proofs.Instance
import Relvar.Proofs.Migration
import Relvar.Proofs.Outcome
import Relvar.Proofs.Parameters
import Relvar.Proofs.Plans
import Relvar.Proofs.RecordClass.Field
import Relvar.Proofs.RecordClass.Written
import Relvar.Proofs.Registration
import Relvar.Proofs.Registration.Items
import Relvar.Proofs.Report
import Relvar.Proofs.Shapes
import Relvar.Proofs.Source.Lexeme
import Relvar.Proofs.Source.Phrase
import Relvar.Proofs.Source.Reader
import Relvar.Proofs.Sql.Binding
import Relvar.Proofs.Sql.Lexeme
import Relvar.Proofs.Sql.Row
import Relvar.Proofs.Sql.Sent
import Relvar.Proofs.Sql.Table
import Relvar.Proofs.Sql.Token
import Relvar.Proofs.Statement.Format
import Relvar.Proofs.Statement.Piece
import Relvar.Proofs.Success
import Relvar.Proofs.Trace
import Relvar.Proofs.Twin
import Relvar.Proofs.Value.Text
import Relvar.RecordClass.Annotation
import Relvar.RecordClass.Basic
import Relvar.RecordClass.Conform
import Relvar.RecordClass.Declaration
import Relvar.Registry
import Relvar.Session
import Relvar.Settings
import Relvar.Statement.Basic
import Relvar.Statement.Binding
import Relvar.Statement.Piece
import Relvar.Text.CodeRanges
import Relvar.Text.Expression
import Relvar.Text.Printable
import Relvar.Text.Quoted
import Relvar.Text.Upper
import Relvar.Text.Word
import Relvar.TypeForm
import Relvar.TypeForm.Written
import Relvar.Value.Basic
import Relvar.Value.Dict
import Relvar.Value.Display
import Relvar.Value.Form
import Relvar.Value.Json
import Relvar.Value.Member
import Relvar.Value.Spelled
import Relvar.Value.Spelled.Calendar
import Relvar.Value.Spelled.Class
