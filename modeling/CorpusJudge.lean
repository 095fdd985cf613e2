import CorpusJudge.Answer
import CorpusJudge.Application
import CorpusJudge.Application.Run
import CorpusJudge.Bytes
import CorpusJudge.CommandLine
import CorpusJudge.Corpus
import CorpusJudge.Eligibility
import CorpusJudge.Eligibility.Rules
import CorpusJudge.Emulator.Clock
import CorpusJudge.Emulator.Computer.Channel
import CorpusJudge.Emulator.Computer.Launch
import CorpusJudge.Emulator.Computer.State
import CorpusJudge.Emulator.Digest
import CorpusJudge.Emulator.Number
import CorpusJudge.Emulator.Platform
import CorpusJudge.Emulator.Shell.Act
import CorpusJudge.Emulator.Shell.Arguments
import CorpusJudge.Emulator.Shell.Arithmetic
import CorpusJudge.Emulator.Shell.Braces
import CorpusJudge.Emulator.Shell.Builtins
import CorpusJudge.Emulator.Shell.Calculation
import CorpusJudge.Emulator.Shell.Condition
import CorpusJudge.Emulator.Shell.Declaring
import CorpusJudge.Emulator.Shell.Describing
import CorpusJudge.Emulator.Shell.Elements
import CorpusJudge.Emulator.Shell.Expansion
import CorpusJudge.Emulator.Shell.Extras
import CorpusJudge.Emulator.Shell.Fields
import CorpusJudge.Emulator.Shell.Folders
import CorpusJudge.Emulator.Shell.Format
import CorpusJudge.Emulator.Shell.Grammar
import CorpusJudge.Emulator.Shell.Input
import CorpusJudge.Emulator.Shell.Invocation
import CorpusJudge.Emulator.Shell.Jobs
import CorpusJudge.Emulator.Shell.Naming
import CorpusJudge.Emulator.Shell.Parameters
import CorpusJudge.Emulator.Shell.Pattern
import CorpusJudge.Emulator.Shell.Quotation
import CorpusJudge.Emulator.Shell.Reader
import CorpusJudge.Emulator.Shell.Redirect
import CorpusJudge.Emulator.Shell.Running
import CorpusJudge.Emulator.Shell.Simple
import CorpusJudge.Emulator.Shell.State
import CorpusJudge.Emulator.Shell.Step
import CorpusJudge.Emulator.Shell.Token
import CorpusJudge.Emulator.Shell.Verdict
import CorpusJudge.Emulator.Shell.Writing
import CorpusJudge.Emulator.Signal
import CorpusJudge.Emulator.Tool.ByteSets
import CorpusJudge.Emulator.Tool.Calendar
import CorpusJudge.Emulator.Tool.Call
import CorpusJudge.Emulator.Tool.Comparison
import CorpusJudge.Emulator.Tool.Copying
import CorpusJudge.Emulator.Tool.Difference
import CorpusJudge.Emulator.Tool.Digests
import CorpusJudge.Emulator.Tool.Dump
import CorpusJudge.Emulator.Tool.Edit.Editor
import CorpusJudge.Emulator.Tool.Edit.Script
import CorpusJudge.Emulator.Tool.Expression
import CorpusJudge.Emulator.Tool.FileChanges
import CorpusJudge.Emulator.Tool.FileFacts
import CorpusJudge.Emulator.Tool.Filter
import CorpusJudge.Emulator.Tool.Finding
import CorpusJudge.Emulator.Tool.Job
import CorpusJudge.Emulator.Tool.Layout
import CorpusJudge.Emulator.Tool.Listing
import CorpusJudge.Emulator.Tool.Merging
import CorpusJudge.Emulator.Tool.Options
import CorpusJudge.Emulator.Tool.Order
import CorpusJudge.Emulator.Tool.Passing
import CorpusJudge.Emulator.Tool.Record.Datum
import CorpusJudge.Emulator.Tool.Record.Grammar
import CorpusJudge.Emulator.Tool.Record.Reader
import CorpusJudge.Emulator.Tool.Record.Run
import CorpusJudge.Emulator.Tool.Record.Session
import CorpusJudge.Emulator.Tool.Record.Token
import CorpusJudge.Emulator.Tool.Record.Words
import CorpusJudge.Emulator.Tool.Recording
import CorpusJudge.Emulator.Tool.Regex
import CorpusJudge.Emulator.Tool.Search
import CorpusJudge.Emulator.Tool.Searching
import CorpusJudge.Emulator.Tool.Sequence
import CorpusJudge.Emulator.Tool.Sorting
import CorpusJudge.Emulator.Tool.Starting
import CorpusJudge.Emulator.Tool.Step
import CorpusJudge.Emulator.Tool.Tally
import CorpusJudge.Emulator.Tool.Words
import CorpusJudge.Execution
import CorpusJudge.Execution.Capture
import CorpusJudge.Files.Error
import CorpusJudge.Files.Mode
import CorpusJudge.Files.Tree
import CorpusJudge.Harness
import CorpusJudge.Harness.Crew
import CorpusJudge.Harness.Parallel
import CorpusJudge.Harness.Stage
import CorpusJudge.Instant
import CorpusJudge.Instant.Reading
import CorpusJudge.Interpreter
import CorpusJudge.Journal
import CorpusJudge.Json.Reader
import CorpusJudge.Json.Value
import CorpusJudge.Json.Writer
import CorpusJudge.Main
import CorpusJudge.Path
import CorpusJudge.Platform
import CorpusJudge.Problem.Cache
import CorpusJudge.Problem.Metadata
import CorpusJudge.Proofs.Answer
import CorpusJudge.Proofs.Answer.LineBreaks
import CorpusJudge.Proofs.Application.Agreement
import CorpusJudge.Proofs.Application.Conclusions
import CorpusJudge.Proofs.Application.Configuring
import CorpusJudge.Proofs.Application.ExitCodes
import CorpusJudge.Proofs.Application.Record
import CorpusJudge.Proofs.Bytes
import CorpusJudge.Proofs.Cache.Caching
import CorpusJudge.Proofs.Cache.Corpus
import CorpusJudge.Proofs.Cache.Crews
import CorpusJudge.Proofs.Cache.Deliveries
import CorpusJudge.Proofs.Cache.Inquiries
import CorpusJudge.Proofs.Cache.Run
import CorpusJudge.Proofs.Cache.Settled
import CorpusJudge.Proofs.Cache.Stages
import CorpusJudge.Proofs.CommandLine
import CorpusJudge.Proofs.Corpus.Alike
import CorpusJudge.Proofs.Corpus.Isolation
import CorpusJudge.Proofs.Corpus.Listing
import CorpusJudge.Proofs.Corpus.Resume
import CorpusJudge.Proofs.Corpus.Scan
import CorpusJudge.Proofs.Eligibility
import CorpusJudge.Proofs.Eligibility.Times
import CorpusJudge.Proofs.Entries
import CorpusJudge.Proofs.Execution
import CorpusJudge.Proofs.Execution.Capturing
import CorpusJudge.Proofs.Execution.Deadline
import CorpusJudge.Proofs.Files.Components
import CorpusJudge.Proofs.Files.Enumerating
import CorpusJudge.Proofs.Files.Moving
import CorpusJudge.Proofs.Files.Naming
import CorpusJudge.Proofs.Files.Replacing
import CorpusJudge.Proofs.Files.Requests
import CorpusJudge.Proofs.Files.Resolving
import CorpusJudge.Proofs.Files.WellFormed
import CorpusJudge.Proofs.Harness.Changes
import CorpusJudge.Proofs.Harness.Clerk
import CorpusJudge.Proofs.Harness.Completion
import CorpusJudge.Proofs.Harness.Courses
import CorpusJudge.Proofs.Harness.Dockets
import CorpusJudge.Proofs.Harness.InOrder
import CorpusJudge.Proofs.Harness.Interleaving
import CorpusJudge.Proofs.Harness.Interruptions
import CorpusJudge.Proofs.Harness.Lockstep
import CorpusJudge.Proofs.Harness.Progress
import CorpusJudge.Proofs.Harness.Responses
import CorpusJudge.Proofs.Harness.Schedules
import CorpusJudge.Proofs.Harness.Settled
import CorpusJudge.Proofs.Harness.Stages
import CorpusJudge.Proofs.Instant.Reading
import CorpusJudge.Proofs.Json.Documents
import CorpusJudge.Proofs.Json.Grammar
import CorpusJudge.Proofs.Json.Reading
import CorpusJudge.Proofs.Json.Schema
import CorpusJudge.Proofs.Json.Spelling
import CorpusJudge.Proofs.Problem.Metadata
import CorpusJudge.Proofs.ReorderBuffer
import CorpusJudge.Proofs.Report.Compact
import CorpusJudge.Proofs.Report.Terminal
import CorpusJudge.Proofs.Settings.Leaves
import CorpusJudge.Proofs.Settings.Overlay
import CorpusJudge.Proofs.Settings.Statements
import CorpusJudge.Proofs.Solution
import CorpusJudge.Proofs.Summary
import CorpusJudge.Proofs.Text.Escaped
import CorpusJudge.Proofs.Text.Integer
import CorpusJudge.Proofs.Text.Order
import CorpusJudge.Proofs.Text.Segments
import CorpusJudge.Proofs.Text.Utf8
import CorpusJudge.Report
import CorpusJudge.Settings
import CorpusJudge.Settings.Document
import CorpusJudge.Settings.File
import CorpusJudge.Sha256
import CorpusJudge.Solution
import CorpusJudge.Summary
import CorpusJudge.Text.Classes
import CorpusJudge.Text.Escaped
import CorpusJudge.Text.Integer
import CorpusJudge.Text.Lowercase
import CorpusJudge.Text.Quoted
import CorpusJudge.Text.Segments
import CorpusJudge.Text.Utf8
import CorpusJudge.Workbench
import CorpusJudge.Yaml.Cursor
import CorpusJudge.Yaml.Node.Reader
import CorpusJudge.Yaml.Token
import CorpusJudge.Yaml.Token.Scalars
import CorpusJudge.Yaml.Token.Scanner
import CorpusJudge.Yaml.Token.Tags
