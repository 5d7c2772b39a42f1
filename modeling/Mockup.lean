import Mockup.Text.Lines
import Mockup.Json.Printer
import Mockup.Json.Parser
import Mockup.Schema.Parser
import Mockup.Schema.Codec
import Mockup.Config.Codec
import Mockup.Schedule.Run
import Mockup.Schema.Review
import Mockup.Task.Codec
import Mockup.Task.Plan
import Mockup.View.Codec
import Mockup.View.Suggest
import Mockup.Artifact.Render
import Mockup.Artifact.Codec
import Mockup.Schedule.Worker
import Mockup.Schedule.Trace
import Mockup.Store.Codec
import Mockup.Progress.Codec
import Mockup.Generation.Generator
import Mockup.Config.Load
import Mockup.Main
import Mockup.Proofs.Schedule.Table
import Mockup.Proofs.Schedule.Board
import Mockup.Proofs.Schedule.Moves
import Mockup.Proofs.Schedule.Consistency
import Mockup.Proofs.Schedule.Course
import Mockup.Proofs.Schedule.Balance
import Mockup.Proofs.Schedule.Results
import Mockup.Proofs.Schedule.Precedence
import Mockup.Proofs.Schedule.Completion
import Mockup.Proofs.Schedule.Verdicts
import Mockup.Proofs.Schedule.Classification
import Mockup.Proofs.Task.Verdict
import Mockup.Proofs.Task.Plan
import Mockup.Proofs.Schema.Lexer
import Mockup.Proofs.Schema.Equations
import Mockup.Proofs.Schema.Readers
import Mockup.Proofs.Schema.Statements
import Mockup.Proofs.Schema.Append
import Mockup.Proofs.Schema.Canonical
import Mockup.Proofs.Schema.Spelling
import Mockup.Proofs.Schema.CanonicalTokens
import Mockup.Proofs.Schema.RoundTrip
import Mockup.Proofs.Json.Members
import Mockup.Proofs.Artifact.Merging
import Mockup.Proofs.Artifact.Rendering
import Mockup.Proofs.Artifact.Keys
import Mockup.Proofs.Text.PascalCase
import Mockup.Proofs.View.Names
import Mockup.Proofs.Progress.Reports
import Mockup.Proofs.Schedule.Outputs
import Mockup.Proofs.Generation.Session
import Mockup.Proofs.Generation.Course
import Mockup.Proofs.Generation.Reporting
import Mockup.Proofs.Generation.Conservation
import Mockup.Proofs.Generation.Routing
import Mockup.Proofs.Schema.Lines
import Mockup.Proofs.Text.Lines
import Mockup.Proofs.Schema.Review
import Mockup.Proofs.Schema.CanonicalReview
import Mockup.Proofs.Schedule.Truncation
import Mockup.Proofs.Schema.Settled
import Mockup.Proofs.Schema.SettledBlocks
import Mockup.Proofs.Schema.Clauses
import Mockup.Proofs.Schema.Places
import Mockup.Proofs.Schema.Layout
import Mockup.Proofs.Store.History
import Mockup.Proofs.Store.Listing
import Mockup.Proofs.Schedule.Priority
import Mockup.Proofs.Schedule.Attempts
import Mockup.Proofs.Schedule.Retries
import Mockup.Proofs.Schema.Written
import Mockup.Proofs.Schema.Rests
import Mockup.Proofs.Schema.Declared
import Mockup.Proofs.Text.CaseMaps
import Mockup.Proofs.Text.SmallLetters
import Mockup.Proofs.Schema.Flags
import Mockup.Proofs.Schema.ReferenceLines
import Mockup.Proofs.Schema.References
import Mockup.Proofs.Schema.ReferenceForms
import Mockup.Proofs.Artifact.Accounts
import Mockup.Proofs.Generation.Chronicle
import Mockup.Proofs.Artifact.Assembly
import Mockup.Proofs.Schema.TableLines
import Mockup.Proofs.Schema.TypeArguments
import Mockup.Proofs.View.Related
import Mockup.Proofs.View.Kinds
import Mockup.Proofs.View.Bindings
import Mockup.Proofs.View.PartIds
import Mockup.Proofs.View.LeadColumns
import Mockup.Proofs.View.Inputs
import Mockup.Proofs.View.Forms
import Mockup.Proofs.Schema.OtherStatements
import Mockup.Proofs.Artifact.Averages
import Mockup.Proofs.Schema.ErrorLines
import Mockup.Proofs.Schema.EnumForms
import Mockup.Proofs.Schedule.SkipClosure
import Mockup.Proofs.Schema.Cursor.Texts
