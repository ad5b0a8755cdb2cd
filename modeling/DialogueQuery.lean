import DialogueQuery.Aggregation.Evaluation
import DialogueQuery.Aggregation.Expr
import DialogueQuery.Aggregation.Matching
import DialogueQuery.Aggregation.Query
import DialogueQuery.Aggregation.Run
import DialogueQuery.Aggregation.Stage
import DialogueQuery.Application
import DialogueQuery.Calendar.Date
import DialogueQuery.Calendar.Text
import DialogueQuery.Coercion.Basic
import DialogueQuery.Coercion.Checked
import DialogueQuery.Coercion.Defect
import DialogueQuery.Comparator
import DialogueQuery.Conversation
import DialogueQuery.Document.Arithmetic
import DialogueQuery.Document.Basic
import DialogueQuery.Document.Compare
import DialogueQuery.Document.Literal
import DialogueQuery.Document.Reader
import DialogueQuery.Document.Writer
import DialogueQuery.Environment
import DialogueQuery.Explanation
import DialogueQuery.Failure
import DialogueQuery.Fault
import DialogueQuery.Filter.FirstIntent
import DialogueQuery.Filter.Length
import DialogueQuery.Filter.Stored
import DialogueQuery.Filter.Window
import DialogueQuery.FilterSpec.Basic
import DialogueQuery.FilterSpec.Validation
import DialogueQuery.Funnel.Counts
import DialogueQuery.Funnel.Depth
import DialogueQuery.Funnel.Reshape
import DialogueQuery.Funnel.Stages
import DialogueQuery.Funnel.Step
import DialogueQuery.Funnel.Walk
import DialogueQuery.Http.Api
import DialogueQuery.Http.Response
import DialogueQuery.Http.Route
import DialogueQuery.Http.SpecBody
import DialogueQuery.Http.Target
import DialogueQuery.Logging.Files
import DialogueQuery.Logging.Level
import DialogueQuery.Logging.Loggers
import DialogueQuery.Number.Binary64
import DialogueQuery.Number.Decimal
import DialogueQuery.Number.Text
import DialogueQuery.Page
import DialogueQuery.Pipeline
import DialogueQuery.Service
import DialogueQuery.Settings
import DialogueQuery.Store.Connection
import DialogueQuery.Store.Conversations
import DialogueQuery.Store.Projects
import DialogueQuery.Store.World
import DialogueQuery.Text.Blank
import DialogueQuery.Text.Bytes
import DialogueQuery.Text.Case
import DialogueQuery.Text.CodePoint
import DialogueQuery.Text.Printable
import DialogueQuery.Text.Utf16
import DialogueQuery.Text.Utf8
import DialogueQuery.Proofs.Actions
import DialogueQuery.Proofs.Aggregation.Conditions
import DialogueQuery.Proofs.Aggregation.Paths
import DialogueQuery.Proofs.Aggregation.Reads
import DialogueQuery.Proofs.Aggregation.Rules
import DialogueQuery.Proofs.Aggregation.Stages
import DialogueQuery.Proofs.Calendar.Written
import DialogueQuery.Proofs.Conversation.Derived
import DialogueQuery.Proofs.Conversation.Events
import DialogueQuery.Proofs.Document.Masking
import DialogueQuery.Proofs.Document.Members
import DialogueQuery.Proofs.Document.Numbers
import DialogueQuery.Proofs.Document.Points
import DialogueQuery.Proofs.Explanation.Agreement
import DialogueQuery.Proofs.Explanation.Checks
import DialogueQuery.Proofs.Explanation.Clauses
import DialogueQuery.Proofs.Explanation.DateRange
import DialogueQuery.Proofs.Explanation.Verdicts
import DialogueQuery.Proofs.Filter.DerivedWindow
import DialogueQuery.Proofs.Filter.FirstIntent
import DialogueQuery.Proofs.Filter.Length
import DialogueQuery.Proofs.Filter.Stored
import DialogueQuery.Proofs.Filter.Window
import DialogueQuery.Proofs.FilterSpec.Written
import DialogueQuery.Proofs.Funnel.CompiledStages
import DialogueQuery.Proofs.Funnel.CompiledWalk
import DialogueQuery.Proofs.Funnel.Grammar
import DialogueQuery.Proofs.Funnel.Greedy
import DialogueQuery.Proofs.Funnel.NameTrees
import DialogueQuery.Proofs.Funnel.Reaching
import DialogueQuery.Proofs.Funnel.Report
import DialogueQuery.Proofs.Funnel.Reencoding
import DialogueQuery.Proofs.Funnel.Resuming
import DialogueQuery.Proofs.Page.Count
import DialogueQuery.Proofs.Page.Order
import DialogueQuery.Proofs.Page.Requests
import DialogueQuery.Proofs.Page.Slices
import DialogueQuery.Proofs.Pipeline.Layout
import DialogueQuery.Proofs.Pipeline.Masking
import DialogueQuery.Proofs.Results
import DialogueQuery.Proofs.Service.SharedStages
import DialogueQuery.Proofs.Service.Turns
import DialogueQuery.Proofs.Service.Verdicts
import DialogueQuery.Proofs.Store.Attempts
import DialogueQuery.Proofs.Store.Calls
import DialogueQuery.Proofs.Store.Lookups
import DialogueQuery.Proofs.Service.Identifiers
import DialogueQuery.Proofs.Service.Kinds
import DialogueQuery.Proofs.Http.Routes
import DialogueQuery.Proofs.FilterSpec.Errors
import DialogueQuery.Proofs.Http.Refusals
import DialogueQuery.Proofs.Http.Operations
import DialogueQuery.Proofs.Http.Requests
import DialogueQuery.Proofs.Http.Answers
import DialogueQuery.Proofs.Document.Literals
import DialogueQuery.Proofs.Document.Read
import DialogueQuery.Proofs.FilterSpec.Entries
import DialogueQuery.Proofs.Number.Rounding
import DialogueQuery.Proofs.Calendar.Seconds
import DialogueQuery.Proofs.Document.Equality
import DialogueQuery.Proofs.Document.Order
import DialogueQuery.Proofs.Store.Clients
import DialogueQuery.Proofs.Application.Lifecycle
import DialogueQuery.Aggregation.Reading
import DialogueQuery.Proofs.Aggregation.Reading
import DialogueQuery.Proofs.Pipeline.Reading
