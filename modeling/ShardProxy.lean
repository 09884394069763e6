import ShardProxy.Backend
import ShardProxy.Binary64
import ShardProxy.Binary64.Decimal
import ShardProxy.Binary64.Format
import ShardProxy.Binary64.Shortest
import ShardProxy.Column
import ShardProxy.Config
import ShardProxy.Dispatch
import ShardProxy.Duration
import ShardProxy.Error
import ShardProxy.Executor
import ShardProxy.Executor.Response
import ShardProxy.Executor.Schedule
import ShardProxy.Executor.State
import ShardProxy.Heap
import ShardProxy.Json
import ShardProxy.Json.Form
import ShardProxy.Json.Packets
import ShardProxy.Json.Reader
import ShardProxy.LogFilter
import ShardProxy.LogFilter.Pattern
import ShardProxy.LogFilter.Pattern.Reader
import ShardProxy.Logging
import ShardProxy.Merge
import ShardProxy.Merge.Concat
import ShardProxy.Merge.Limited
import ShardProxy.Merge.Ordered
import ShardProxy.Metrics
import ShardProxy.Numeral.Hexadecimal
import ShardProxy.Numeral.Integer
import ShardProxy.Numeral.Power
import ShardProxy.Packet
import ShardProxy.Policy
import ShardProxy.Proofs.Binary64
import ShardProxy.Proofs.Dispatch
import ShardProxy.Proofs.Dispatch.Announcement
import ShardProxy.Proofs.Dispatch.Heads
import ShardProxy.Proofs.Dispatch.Reconciliation
import ShardProxy.Proofs.Executor.Accounts
import ShardProxy.Proofs.Executor.Calls
import ShardProxy.Proofs.Executor.Commands
import ShardProxy.Proofs.Executor.Conservation
import ShardProxy.Proofs.Executor.Deadline
import ShardProxy.Proofs.Executor.Drive
import ShardProxy.Proofs.Executor.Faults
import ShardProxy.Proofs.Executor.Gather
import ShardProxy.Proofs.Executor.Lives
import ShardProxy.Proofs.Executor.Pool
import ShardProxy.Proofs.Executor.Progress
import ShardProxy.Proofs.Executor.Response
import ShardProxy.Proofs.Executor.Steps
import ShardProxy.Proofs.Heap
import ShardProxy.Proofs.Lists
import ShardProxy.Proofs.Merge.Amounts
import ShardProxy.Proofs.Merge.Concat
import ShardProxy.Proofs.Merge.Conservation
import ShardProxy.Proofs.Merge.Extent
import ShardProxy.Proofs.Merge.Failure
import ShardProxy.Proofs.Merge.Limited
import ShardProxy.Proofs.Merge.Order
import ShardProxy.Proofs.Merge.Ordered
import ShardProxy.Proofs.Merge.Paging
import ShardProxy.Proofs.Merge.Precedence
import ShardProxy.Proofs.Merge.Refusal
import ShardProxy.Proofs.Merge.Replacement
import ShardProxy.Proofs.Merge.Representation
import ShardProxy.Proofs.Merge.Rereading
import ShardProxy.Proofs.Merge.Retry
import ShardProxy.Proofs.Merge.Tracing
import ShardProxy.Proofs.Merge.Transparency
import ShardProxy.Proofs.Merge.Validation
import ShardProxy.Proofs.Numeral
import ShardProxy.Proofs.Numeral.Amount
import ShardProxy.Proofs.Numeral.Precision
import ShardProxy.Proofs.Registry
import ShardProxy.Proofs.Registry.Reuse
import ShardProxy.Proofs.Resources
import ShardProxy.Proofs.Rows
import ShardProxy.Proofs.Service
import ShardProxy.Proofs.Service.Acts
import ShardProxy.Proofs.Service.Admission
import ShardProxy.Proofs.Service.Closing
import ShardProxy.Proofs.Service.Course
import ShardProxy.Proofs.Service.Origin
import ShardProxy.Proofs.Service.Refinement
import ShardProxy.Proofs.Service.Release
import ShardProxy.Proofs.Service.Submission
import ShardProxy.Proofs.Streaming
import ShardProxy.Proofs.Streaming.Calls
import ShardProxy.Proofs.Text
import ShardProxy.Proofs.Value.Amount
import ShardProxy.Proofs.Value.Coercion
import ShardProxy.Proofs.Value.Comparable
import ShardProxy.Proofs.Value.Exact
import ShardProxy.Proofs.Value.IntegerText
import ShardProxy.Proofs.Value.Order
import ShardProxy.Proofs.Value.RoundTrip
import ShardProxy.Proxy
import ShardProxy.Proxy.Portal
import ShardProxy.Registry
import ShardProxy.Resources
import ShardProxy.Routing
import ShardProxy.Rows
import ShardProxy.Sources
import ShardProxy.Statement
import ShardProxy.Streaming
import ShardProxy.Text.Alphanumeric
import ShardProxy.Text.Blank
import ShardProxy.Text.Inspect
import ShardProxy.Text.Lossy
import ShardProxy.Text.Printable
import ShardProxy.Text.Quoted
import ShardProxy.Text.Ranges
import ShardProxy.Value
import ShardProxy.Value.Coercion
import ShardProxy.Value.Order
