import PayloadCheck.Check.Basic
import PayloadCheck.Check.KeyLimiter
import PayloadCheck.Decimal.Double
import PayloadCheck.Decimal.Shortest
import PayloadCheck.Execution.Event
import PayloadCheck.Execution.Options
import PayloadCheck.Execution.OptionsDocument
import PayloadCheck.Execution.Plan
import PayloadCheck.Execution.Run
import PayloadCheck.Execution.Session
import PayloadCheck.Json.Decoder
import PayloadCheck.Json.Fault
import PayloadCheck.Json.Number
import PayloadCheck.Json.Numeral
import PayloadCheck.Json.Printer
import PayloadCheck.Json.Quoted
import PayloadCheck.Json.Reader
import PayloadCheck.Json.Skip
import PayloadCheck.Json.Taken
import PayloadCheck.Json.Value
import PayloadCheck.Payload
import PayloadCheck.Proofs.Acceptance
import PayloadCheck.Proofs.Amendments
import PayloadCheck.Proofs.Answers
import PayloadCheck.Proofs.Blocks
import PayloadCheck.Proofs.CodeSets
import PayloadCheck.Proofs.Comparison
import PayloadCheck.Proofs.Conformance
import PayloadCheck.Proofs.Consistency
import PayloadCheck.Proofs.Delimiters
import PayloadCheck.Proofs.Documents
import PayloadCheck.Proofs.Elements
import PayloadCheck.Proofs.FailFast
import PayloadCheck.Proofs.FirstViolation
import PayloadCheck.Proofs.Flags
import PayloadCheck.Proofs.Guards
import PayloadCheck.Proofs.IntegerBounds
import PayloadCheck.Proofs.Isolation
import PayloadCheck.Proofs.KeyCount
import PayloadCheck.Proofs.Numerals
import PayloadCheck.Proofs.Offenders
import PayloadCheck.Proofs.Partition
import PayloadCheck.Proofs.PathText
import PayloadCheck.Proofs.Places
import PayloadCheck.Proofs.Quotations
import PayloadCheck.Proofs.Rearrangement
import PayloadCheck.Proofs.Records
import PayloadCheck.Proofs.Refusals
import PayloadCheck.Proofs.RoundTrips
import PayloadCheck.Proofs.Rounding
import PayloadCheck.Proofs.Rules
import PayloadCheck.Proofs.Runs
import PayloadCheck.Proofs.Sequence
import PayloadCheck.Proofs.Sessions
import PayloadCheck.Proofs.Subjects
import PayloadCheck.Proofs.Tightening
import PayloadCheck.Proofs.Turns
import PayloadCheck.Proofs.Unreachable
import PayloadCheck.Proofs.Words
import PayloadCheck.Regex.Anchor
import PayloadCheck.Regex.Class
import PayloadCheck.Regex.Escape
import PayloadCheck.Regex.Program
import PayloadCheck.Regex.Reader
import PayloadCheck.Regex.Scan
import PayloadCheck.Regex.Term
import PayloadCheck.Report.Decoding
import PayloadCheck.Report.Encoding
import PayloadCheck.Report.Outcome
import PayloadCheck.Report.Verdict
import PayloadCheck.Schema.Bounds
import PayloadCheck.Schema.Constraint
import PayloadCheck.Schema.ConstraintTag
import PayloadCheck.Schema.Error
import PayloadCheck.Schema.Kind
import PayloadCheck.Schema.Pattern
import PayloadCheck.Schema.Template
import PayloadCheck.Service
import PayloadCheck.Text.Escaped
import PayloadCheck.Unicode.Age
import PayloadCheck.Unicode.Casing
import PayloadCheck.Unicode.Category
import PayloadCheck.Unicode.CodeSet
import PayloadCheck.Unicode.Named
import PayloadCheck.Unicode.Property
import PayloadCheck.Unicode.RangeText
import PayloadCheck.Unicode.Script
import PayloadCheck.Unicode.Segmentation
