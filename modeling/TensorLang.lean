import TensorLang.Build.Board
import TensorLang.Build.Build
import TensorLang.Build.OutputPath
import TensorLang.Build.Stage
import TensorLang.Cli.Command
import TensorLang.Cli.Flag
import TensorLang.Cli.Footprint
import TensorLang.Cli.Inspect
import TensorLang.Cli.Process
import TensorLang.Cli.Produce
import TensorLang.Cli.Program
import TensorLang.Cli.Settings
import TensorLang.DType
import TensorLang.Diagnostic.Bag
import TensorLang.Diagnostic.Basic
import TensorLang.Diagnostic.Document
import TensorLang.Diagnostic.Lines
import TensorLang.Diagnostic.Reporter
import TensorLang.Diagnostic.Snippet
import TensorLang.Emit.Constraint
import TensorLang.Emit.Fragment
import TensorLang.Emit.Grammar
import TensorLang.Emit.ImportPath
import TensorLang.Emit.Imports
import TensorLang.Emit.Layout.Commands
import TensorLang.Emit.Layout.Declarations
import TensorLang.Emit.Layout.Lists
import TensorLang.Emit.Layout.Signatures
import TensorLang.Emit.Layout.Terms
import TensorLang.Emit.Literal
import TensorLang.Emit.Page.Basic
import TensorLang.Emit.Page.Constraints
import TensorLang.Emit.Page.Remarks
import TensorLang.Emit.Page.Tokens
import TensorLang.Emit.Places
import TensorLang.Emit.Prose
import TensorLang.Emit.Remark
import TensorLang.Emit.RemarkText
import TensorLang.Emit.Rule.Basic
import TensorLang.Emit.Rule.Commands
import TensorLang.Emit.Rule.Declarations
import TensorLang.Emit.Rule.Terms
import TensorLang.Emit.Rule.Types
import TensorLang.Emit.Scan
import TensorLang.Emit.Target
import TensorLang.Emit.Token
import TensorLang.Emit.Tree
import TensorLang.Emit.Wrapper
import TensorLang.Hash.Sha256
import TensorLang.Json.Value
import TensorLang.Main
import TensorLang.Observe.Timer
import TensorLang.Pipeline.Batch
import TensorLang.Pipeline.Payload
import TensorLang.Pipeline.Run
import TensorLang.Pipeline.Workers
import TensorLang.Project.Manifest
import TensorLang.Proofs.Build.Board
import TensorLang.Proofs.Build.OutputPath
import TensorLang.Proofs.Build.Progress
import TensorLang.Proofs.Build.Writes
import TensorLang.Proofs.Cli.Collisions
import TensorLang.Proofs.Diagnostic.Bag
import TensorLang.Proofs.Diagnostic.History
import TensorLang.Proofs.Diagnostic.Lines
import TensorLang.Proofs.Diagnostic.Repetitions
import TensorLang.Proofs.Diagnostic.Respan
import TensorLang.Proofs.Diagnostic.Snippet
import TensorLang.Proofs.Emit.Declarations
import TensorLang.Proofs.Emit.Elements
import TensorLang.Proofs.Emit.Failures
import TensorLang.Proofs.Emit.Faithful
import TensorLang.Proofs.Emit.Fingerprint
import TensorLang.Proofs.Emit.Hygiene
import TensorLang.Proofs.Emit.Identifiers
import TensorLang.Proofs.Emit.Lookup
import TensorLang.Proofs.Emit.Lowered
import TensorLang.Proofs.Emit.Offsets
import TensorLang.Proofs.Emit.Reformat
import TensorLang.Proofs.Emit.Respan
import TensorLang.Proofs.Emit.Unambiguous
import TensorLang.Proofs.Pipeline.Attribution
import TensorLang.Proofs.Pipeline.Cache
import TensorLang.Proofs.Pipeline.Output
import TensorLang.Proofs.Pipeline.Payload
import TensorLang.Proofs.Pipeline.Relocation
import TensorLang.Proofs.Pipeline.Repetitions
import TensorLang.Proofs.Pipeline.Reports
import TensorLang.Proofs.Pipeline.Restore
import TensorLang.Proofs.Pipeline.Spans
import TensorLang.Proofs.Pipeline.Trails
import TensorLang.Proofs.Pipeline.Truncation
import TensorLang.Proofs.Pipeline.Workers
import TensorLang.Proofs.Results
import TensorLang.Proofs.Schedule.Threads
import TensorLang.Proofs.Source.Path
import TensorLang.Proofs.Source.Positions
import TensorLang.Proofs.Source.Relative
import TensorLang.Proofs.Storage.ResultCache
import TensorLang.Proofs.Storage.Tree
import TensorLang.Proofs.Storage.Unpack
import TensorLang.Proofs.Syntax.Blame
import TensorLang.Proofs.Syntax.Boundaries
import TensorLang.Proofs.Syntax.Canonical
import TensorLang.Proofs.Syntax.Complaints
import TensorLang.Proofs.Syntax.Completeness
import TensorLang.Proofs.Syntax.Derivation
import TensorLang.Proofs.Syntax.Exactness
import TensorLang.Proofs.Syntax.Excerpt
import TensorLang.Proofs.Syntax.Expectations
import TensorLang.Proofs.Syntax.Extension
import TensorLang.Proofs.Syntax.Judgements
import TensorLang.Proofs.Syntax.Layout
import TensorLang.Proofs.Syntax.LineEnds
import TensorLang.Proofs.Syntax.Logs
import TensorLang.Proofs.Syntax.Overflow
import TensorLang.Proofs.Syntax.Places
import TensorLang.Proofs.Syntax.Reading
import TensorLang.Proofs.Syntax.Rejections
import TensorLang.Proofs.Syntax.RelocatedParse
import TensorLang.Proofs.Syntax.Relocation
import TensorLang.Proofs.Syntax.Respan
import TensorLang.Proofs.Syntax.Retold
import TensorLang.Proofs.Syntax.RoundTrip
import TensorLang.Proofs.Syntax.Soundness
import TensorLang.Proofs.Syntax.SourceOrder
import TensorLang.Proofs.Syntax.Tokens
import TensorLang.Proofs.Syntax.Trimming
import TensorLang.Proofs.Syntax.Triples
import TensorLang.Proofs.Syntax.Viability
import TensorLang.Proofs.Syntax.Writable
import TensorLang.Proofs.Text.Ansi
import TensorLang.Proofs.Text.Ascii
import TensorLang.Proofs.Text.Blanks
import TensorLang.Proofs.Text.Decimal
import TensorLang.Proofs.Text.Pieces
import TensorLang.Proofs.Text.Quoted
import TensorLang.Proofs.Text.TreeDrawing
import TensorLang.Proofs.Text.Utf8
import TensorLang.Proofs.Text.Validity
import TensorLang.Proofs.Text.Width
import TensorLang.Proofs.Trace.Nesting
import TensorLang.Proofs.Trace.Ring
import TensorLang.Proofs.Typing.Batches
import TensorLang.Proofs.Typing.Chains
import TensorLang.Proofs.Typing.Locations
import TensorLang.Proofs.Typing.Origins
import TensorLang.Proofs.Typing.Respan
import TensorLang.Proofs.Typing.Statements
import TensorLang.Proofs.Typing.UseSites
import TensorLang.Schedule
import TensorLang.Search
import TensorLang.Source.FileSet
import TensorLang.Source.Normalize
import TensorLang.Source.Path
import TensorLang.Source.Span
import TensorLang.Storage.Pack
import TensorLang.Storage.ResultCache
import TensorLang.Storage.Tree
import TensorLang.Storage.Unpack
import TensorLang.Syntax.Ast
import TensorLang.Syntax.Error
import TensorLang.Syntax.Outline
import TensorLang.Syntax.Parser
import TensorLang.Syntax.Printer
import TensorLang.Syntax.Reader
import TensorLang.Text.Ansi
import TensorLang.Text.Binary64
import TensorLang.Text.Blank
import TensorLang.Text.Bytes
import TensorLang.Text.CodeRanges
import TensorLang.Text.Columns
import TensorLang.Text.Decimal
import TensorLang.Text.Decomposition
import TensorLang.Text.EditDistance
import TensorLang.Text.Grapheme
import TensorLang.Text.Letter
import TensorLang.Text.LetterCase
import TensorLang.Text.Normal
import TensorLang.Text.Numeral
import TensorLang.Text.Printable
import TensorLang.Text.Quoted
import TensorLang.Text.TreeDrawing
import TensorLang.Text.Utf8
import TensorLang.Text.Width
import TensorLang.Time.Duration
import TensorLang.Time.Instant
import TensorLang.Toml.Document
import TensorLang.Toml.Reader
import TensorLang.Toml.Scalar
import TensorLang.Trace.Event
import TensorLang.Trace.Line
import TensorLang.Trace.Ring
import TensorLang.Trace.Tracer
import TensorLang.Ty
import TensorLang.Typing.Error
import TensorLang.Typing.Infer
import TensorLang.Typing.Symbols
import TensorLang.Version
