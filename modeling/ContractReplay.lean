import ContractReplay.Arguments
import ContractReplay.Base64
import ContractReplay.Binary64.Basic
import ContractReplay.Binary64.Rounding
import ContractReplay.Catalog
import ContractReplay.Client
import ContractReplay.Coercion
import ContractReplay.CommandLine.Arguments
import ContractReplay.CommandLine.Disk
import ContractReplay.CommandLine.Execution
import ContractReplay.Decimal.Digits
import ContractReplay.Decimal.Reader
import ContractReplay.Decimal.Shortest
import ContractReplay.Demo.Schemas
import ContractReplay.Demo.Service
import ContractReplay.Difference
import ContractReplay.Failure
import ContractReplay.Json.Basic
import ContractReplay.Json.Decoder
import ContractReplay.Json.Number
import ContractReplay.Json.Numeral
import ContractReplay.Json.ReadError
import ContractReplay.Json.Reader
import ContractReplay.Json.Skip
import ContractReplay.Json.StringReader
import ContractReplay.Json.Writer
import ContractReplay.Log
import ContractReplay.Main
import ContractReplay.Method
import ContractReplay.Naming
import ContractReplay.Path
import ContractReplay.Proofs.Arguments.Entries
import ContractReplay.Proofs.Base64.Canonical
import ContractReplay.Proofs.Binary64.Integers
import ContractReplay.Proofs.Coercion.Acceptance
import ContractReplay.Proofs.Coercion.Conformance
import ContractReplay.Proofs.Coercion.FieldKeys
import ContractReplay.Proofs.Coercion.FieldUpdate
import ContractReplay.Proofs.Coercion.FirstFailure
import ContractReplay.Proofs.Coercion.Idempotence
import ContractReplay.Proofs.Coercion.LargerCatalogs
import ContractReplay.Proofs.Coercion.LimitedRun
import ContractReplay.Proofs.Coercion.NestedUnions
import ContractReplay.Proofs.Coercion.Outline
import ContractReplay.Proofs.Coercion.ReadBack
import ContractReplay.Proofs.Coercion.References
import ContractReplay.Proofs.Coercion.Refusal
import ContractReplay.Proofs.Coercion.Steps
import ContractReplay.Proofs.Coercion.Termination
import ContractReplay.Proofs.Coercion.WellTyped
import ContractReplay.Proofs.CommandLine.RunStatus
import ContractReplay.Proofs.Demo.ClosedService
import ContractReplay.Proofs.Demo.Creation
import ContractReplay.Proofs.Demo.Mirror
import ContractReplay.Proofs.Demo.Replies
import ContractReplay.Proofs.Difference.Alignment
import ContractReplay.Proofs.Difference.Enumeration
import ContractReplay.Proofs.Difference.Symmetry
import ContractReplay.Proofs.Difference.Turns
import ContractReplay.Proofs.Difference.Verdict
import ContractReplay.Proofs.Json.Layouts
import ContractReplay.Proofs.Json.Records
import ContractReplay.Proofs.Json.Reordered
import ContractReplay.Proofs.Json.Scalars
import ContractReplay.Proofs.Json.Values
import ContractReplay.Proofs.Json.Yields
import ContractReplay.Proofs.Lists
import ContractReplay.Proofs.Naming.InternalNames
import ContractReplay.Proofs.Naming.MethodNames
import ContractReplay.Proofs.Naming.ParameterNames
import ContractReplay.Proofs.Naming.WordBoundaries
import ContractReplay.Proofs.Replay.Binding
import ContractReplay.Proofs.Replay.BoundArguments
import ContractReplay.Proofs.Replay.Classification
import ContractReplay.Proofs.Replay.Endings
import ContractReplay.Proofs.Replay.ErrorVerdict
import ContractReplay.Proofs.Replay.Isolation
import ContractReplay.Proofs.Replay.LocatedMismatch
import ContractReplay.Proofs.Replay.Reordering
import ContractReplay.Proofs.Replay.ResponseVerdict
import ContractReplay.Proofs.Replay.Stages
import ContractReplay.Proofs.Replay.Views
import ContractReplay.Proofs.Schema.InlineSchemas
import ContractReplay.Proofs.Schema.Reach
import ContractReplay.Proofs.Schema.ValidSets
import ContractReplay.Proofs.ServiceError.ErrorRecord
import ContractReplay.Proofs.Suite.RoundTrip
import ContractReplay.Proofs.Timestamp.Rereading
import ContractReplay.Proofs.Timestamp.RoundTrip
import ContractReplay.Proofs.Typed.Wire
import ContractReplay.Proofs.Typed.WireEquality
import ContractReplay.Replay
import ContractReplay.Report
import ContractReplay.Schema
import ContractReplay.ServiceError
import ContractReplay.Settings
import ContractReplay.Suite.Basic
import ContractReplay.Suite.Text
import ContractReplay.Text.Alphabetic
import ContractReplay.Text.Blank
import ContractReplay.Text.CaseRuns
import ContractReplay.Text.CodeRanges
import ContractReplay.Text.LetterCase
import ContractReplay.Text.Printable
import ContractReplay.Text.Quoted
import ContractReplay.Text.Search
import ContractReplay.Timestamp.Basic
import ContractReplay.Timestamp.Text
import ContractReplay.Typed.Basic
import ContractReplay.Typed.Record
