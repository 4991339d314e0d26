import Grok.Builtin
import Grok.Capture
import Grok.Capture.Bytes
import Grok.Capture.Groups
import Grok.Coercion
import Grok.Document
import Grok.Document.Json
import Grok.Document.Yaml
import Grok.Document.Yaml.Cursor
import Grok.Document.Yaml.Scalar
import Grok.Document.Yaml.Token
import Grok.Engine
import Grok.Error
import Grok.Event
import Grok.Event.Path
import Grok.Event.Store
import Grok.Expansion
import Grok.FileTree
import Grok.Filter
import Grok.Glob
import Grok.Library
import Grok.Log
import Grok.Matcher
import Grok.Number.Binary64
import Grok.Number.Decimal
import Grok.Number.Shortest
import Grok.Number.Word
import Grok.Options
import Grok.Options.Decode
import Grok.Outcome
import Grok.PatternFile
import Grok.Reference
import Grok.Regex.Fault
import Grok.Regex.GroupName
import Grok.Regex.Node
import Grok.Regex.PointSet
import Grok.Regex.Search
import Grok.Regex.Token
import Grok.Table
import Grok.Text.Alphabet
import Grok.Text.Case
import Grok.Text.Clip
import Grok.Text.Hex
import Grok.Text.Lines
import Grok.Text.Quoted
import Grok.Text.Ranges
import Grok.Text.Ranges.Alphanumeric
import Grok.Text.Ranges.Hidden
import Grok.Text.Ranges.Identifier
import Grok.Text.Slice
import Grok.Text.Space
import Grok.Timeout.Deadline
import Grok.Timeout.Duration
import Grok.Timeout.Enforcer
import Grok.Timeout.Ledger
import Grok.Timeout.Mailbox
import Grok.Timeout.Session
import Grok.Value
import Grok.Timeout.Crew
import Grok.Proofs.Timeout.Standing
import Grok.Proofs.Timeout.Interrupt
import Grok.Proofs.Timeout.Delivery
import Grok.Proofs.Timeout.Transparency
import Grok.Proofs.Timeout.Backlog
import Grok.Proofs.Timeout.Tally
import Grok.Proofs.Timeout.Watch
import Grok.Proofs.Regex.Limit
import Grok.Proofs.Timeout.Session
import Grok.Proofs.Expansion.Graph
import Grok.Proofs.Expansion.FixedPoint
import Grok.Proofs.Expansion.Numbering
import Grok.Proofs.Expansion.Captures
import Grok.Proofs.Capture.Agreement
import Grok.Proofs.Filter.Trials
import Grok.Proofs.Filter.Verdict
import Grok.Proofs.Filter.Course
import Grok.Proofs.Filter.Untimed
import Grok.Proofs.Event.Leaves
import Grok.Proofs.Filter.Conservation
import Grok.Proofs.Event.Apart
import Grok.Proofs.Event.Tags
import Grok.Proofs.Filter.Invariant
import Grok.Proofs.Filter.Configured
import Grok.Proofs.Filter.Footprint
import Grok.Proofs.Filter.Tour
import Grok.Proofs.Filter.Projection
import Grok.Proofs.Timeout.Expiry
import Grok.Proofs.Filter.Budget
import Grok.Proofs.Number.Rounding
import Grok.Proofs.Coercion.Integer
import Grok.Proofs.Library.Definitions
import Grok.Proofs.Library.Files
import Grok.Proofs.Library.Loading
import Grok.Proofs.Library.Precedence
import Grok.Proofs.Expansion.Resolution
import Grok.Proofs.Expansion.Attribution
import Grok.Proofs.Number.Quotient
import Grok.Proofs.Coercion.Fraction
import Grok.Proofs.Reference.Scan
import Grok.Proofs.Expansion.Dependence
import Grok.Proofs.Filter.Fields
import Grok.Proofs.Filter.Spelling
import Grok.Proofs.Event.Store
import Grok.Proofs.Text.Lines
import Grok.Proofs.Text.Slice
import Grok.Proofs.Capture.Bytes
import Grok.Proofs.PatternFile.Grammar
import Grok.Proofs.Library.Failure
import Grok.Proofs.Options.Patterns
import Grok.Proofs.Options.Timeout
import Grok.Proofs.Filter.Lookup
import Grok.Proofs.Filter.Logged
