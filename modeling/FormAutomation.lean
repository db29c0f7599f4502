import FormAutomation.Attempt
import FormAutomation.Call
import FormAutomation.Check.Configuration
import FormAutomation.Check.Cycle
import FormAutomation.Check.Finding
import FormAutomation.Check.Graph
import FormAutomation.Check.Issue
import FormAutomation.Check.Reach
import FormAutomation.Check.Structure
import FormAutomation.Command.Arguments
import FormAutomation.Command.Basic
import FormAutomation.Command.Files
import FormAutomation.Command.Help
import FormAutomation.Command.Invocation
import FormAutomation.Compression.Checksum
import FormAutomation.Compression.Envelope
import FormAutomation.Compression.Inflate
import FormAutomation.Compression.PrefixCode
import FormAutomation.Condition
import FormAutomation.Context
import FormAutomation.Dispatch
import FormAutomation.Execution
import FormAutomation.Graph.Action
import FormAutomation.Graph.Basic
import FormAutomation.Graph.Strain
import FormAutomation.Hook
import FormAutomation.Main
import FormAutomation.Network.Address
import FormAutomation.Network.Client
import FormAutomation.Network.ContentCoding
import FormAutomation.Network.ContentType
import FormAutomation.Network.DomainName
import FormAutomation.Network.Exchange
import FormAutomation.Network.LabelClasses
import FormAutomation.Network.Reference
import FormAutomation.Network.Strain
import FormAutomation.Network.Url
import FormAutomation.Number.Binary64
import FormAutomation.Number.Notation
import FormAutomation.Number.Numeral
import FormAutomation.Number.Shortest
import FormAutomation.Payload.Complaint
import FormAutomation.Payload.Load
import FormAutomation.Payload.Migration
import FormAutomation.Payload.Save
import FormAutomation.Payload.Schema
import FormAutomation.Proofs.Check.Code
import FormAutomation.Proofs.Check.Cycle
import FormAutomation.Proofs.Check.Invariants
import FormAutomation.Proofs.Check.Line
import FormAutomation.Proofs.Check.Port
import FormAutomation.Proofs.Check.Reach
import FormAutomation.Proofs.Check.Report
import FormAutomation.Proofs.Check.Validity
import FormAutomation.Proofs.Command.Arguments
import FormAutomation.Proofs.Command.Ending
import FormAutomation.Proofs.Command.Inline
import FormAutomation.Proofs.Command.Reading
import FormAutomation.Proofs.Condition.Agreement
import FormAutomation.Proofs.Condition.Containment
import FormAutomation.Proofs.Condition.Equality
import FormAutomation.Proofs.Condition.Overflow
import FormAutomation.Proofs.Context.Source
import FormAutomation.Proofs.Dispatch
import FormAutomation.Proofs.Dispatch.Dependency
import FormAutomation.Proofs.Execution.Answer
import FormAutomation.Proofs.Execution.Assignment
import FormAutomation.Proofs.Execution.Attempt
import FormAutomation.Proofs.Execution.Fault
import FormAutomation.Proofs.Graph.Circuit
import FormAutomation.Proofs.Graph.Index
import FormAutomation.Proofs.Hook
import FormAutomation.Proofs.Network.Canonical
import FormAutomation.Proofs.Network.CheckedName
import FormAutomation.Proofs.Network.Contact
import FormAutomation.Proofs.Network.Content
import FormAutomation.Proofs.Network.Gate
import FormAutomation.Proofs.Network.Label
import FormAutomation.Proofs.Network.Literal
import FormAutomation.Proofs.Network.Reserved
import FormAutomation.Proofs.Network.Watched
import FormAutomation.Proofs.Number.Exact
import FormAutomation.Proofs.Number.Order
import FormAutomation.Proofs.Number.Range
import FormAutomation.Proofs.Payload.Alike
import FormAutomation.Proofs.Payload.Blame
import FormAutomation.Proofs.Payload.Idempotence
import FormAutomation.Proofs.Payload.Identity
import FormAutomation.Proofs.Payload.Lookup
import FormAutomation.Proofs.Payload.Metadata
import FormAutomation.Proofs.Payload.OlderShape
import FormAutomation.Proofs.Payload.Precedence
import FormAutomation.Proofs.Payload.Recoding
import FormAutomation.Proofs.Payload.Refusal
import FormAutomation.Proofs.Payload.RoundTrip
import FormAutomation.Proofs.Run.Budget
import FormAutomation.Proofs.Run.Calls
import FormAutomation.Proofs.Run.Chain
import FormAutomation.Proofs.Run.Clean
import FormAutomation.Proofs.Run.Comparison
import FormAutomation.Proofs.Run.DeadEdge
import FormAutomation.Proofs.Run.Effect
import FormAutomation.Proofs.Run.Failure
import FormAutomation.Proofs.Run.Move
import FormAutomation.Proofs.Run.Protocol
import FormAutomation.Proofs.Run.Reach
import FormAutomation.Proofs.Run.Recap
import FormAutomation.Proofs.Run.Replay
import FormAutomation.Proofs.Run.Shape
import FormAutomation.Proofs.Run.Simulation
import FormAutomation.Proofs.Run.Snapshot
import FormAutomation.Proofs.Run.Step
import FormAutomation.Proofs.Run.Trail
import FormAutomation.Proofs.Run.Valid
import FormAutomation.Proofs.Run.Watch
import FormAutomation.Proofs.Settings
import FormAutomation.Proofs.Template.Cut
import FormAutomation.Proofs.Template.Occurrence
import FormAutomation.Proofs.Template.Reference
import FormAutomation.Proofs.Template.Settling
import FormAutomation.Proofs.Template.Structured
import FormAutomation.Proofs.Terminal.Table
import FormAutomation.Proofs.Text.Capitals
import FormAutomation.Proofs.Text.Case
import FormAutomation.Proofs.Text.Sigma
import FormAutomation.Proofs.Text.Utf8
import FormAutomation.Proofs.Value.Derivation
import FormAutomation.Proofs.Value.Excess
import FormAutomation.Proofs.Value.LineEnds
import FormAutomation.Proofs.Value.Marks
import FormAutomation.Proofs.Value.Position
import FormAutomation.Proofs.Value.ReadBack
import FormAutomation.Proofs.Value.Scalar
import FormAutomation.Proofs.Value.Segment
import FormAutomation.Proofs.Value.Token
import FormAutomation.Run.Basic
import FormAutomation.Run.Notice
import FormAutomation.Run.Options
import FormAutomation.Run.Result
import FormAutomation.Settings
import FormAutomation.Starter
import FormAutomation.Template
import FormAutomation.Terminal.CellWidth
import FormAutomation.Terminal.Cells
import FormAutomation.Terminal.Emoji
import FormAutomation.Terminal.Handler
import FormAutomation.Terminal.Handler.Expression
import FormAutomation.Terminal.Handler.Token
import FormAutomation.Terminal.Markup
import FormAutomation.Terminal.Style
import FormAutomation.Terminal.Table
import FormAutomation.Terminal.Wrap
import FormAutomation.Text.Backslash
import FormAutomation.Text.Base64
import FormAutomation.Text.Blank
import FormAutomation.Text.ByteSet
import FormAutomation.Text.Case
import FormAutomation.Text.Charset
import FormAutomation.Text.Composition
import FormAutomation.Text.Digit
import FormAutomation.Text.Direction
import FormAutomation.Text.EastAsian.Big5
import FormAutomation.Text.EastAsian.Chinese
import FormAutomation.Text.EastAsian.Coding
import FormAutomation.Text.EastAsian.Gb2312
import FormAutomation.Text.EastAsian.Gbk
import FormAutomation.Text.EastAsian.HongKong
import FormAutomation.Text.EastAsian.Japanese
import FormAutomation.Text.EastAsian.JapaneseWindows
import FormAutomation.Text.EastAsian.Jis208
import FormAutomation.Text.EastAsian.Jis212
import FormAutomation.Text.EastAsian.Jis213
import FormAutomation.Text.EastAsian.Korean
import FormAutomation.Text.EastAsian.Ks1001
import FormAutomation.Text.EastAsian.Reading
import FormAutomation.Text.EastAsian.Sheet
import FormAutomation.Text.EastAsian.Switching
import FormAutomation.Text.Fill
import FormAutomation.Text.Printable
import FormAutomation.Text.Punycode
import FormAutomation.Text.Quoted
import FormAutomation.Text.Ranges
import FormAutomation.Text.Split
import FormAutomation.Text.Utf7
import FormAutomation.Text.Utf8
import FormAutomation.Text.Word
import FormAutomation.Value.Basic
import FormAutomation.Value.Entries
import FormAutomation.Value.Excess
import FormAutomation.Value.Literal
import FormAutomation.Value.Numeric
import FormAutomation.Value.Path
import FormAutomation.Value.Reader
import FormAutomation.Value.Writer
