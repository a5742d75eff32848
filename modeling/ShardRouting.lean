import ShardRouting.Base64
import ShardRouting.Cli.Arguments
import ShardRouting.Cli.Describe
import ShardRouting.Cli.Run
import ShardRouting.Config
import ShardRouting.Decode.Fault
import ShardRouting.Decode.Json
import ShardRouting.Decode.JsonText
import ShardRouting.Decode.Readable
import ShardRouting.Decode.Record
import ShardRouting.Decode.Yaml
import ShardRouting.Exporter
import ShardRouting.FileError
import ShardRouting.Gather.Collect
import ShardRouting.Gather.Error
import ShardRouting.Gather.Execute
import ShardRouting.Hash.XxHash64
import ShardRouting.Json.Basic
import ShardRouting.Json.Source
import ShardRouting.Loading
import ShardRouting.LogFilter
import ShardRouting.Number.Binary64
import ShardRouting.Ordered.Map
import ShardRouting.Ordered.Set
import ShardRouting.Query.Combination
import ShardRouting.Query.Fingerprint
import ShardRouting.Query.Result
import ShardRouting.Query.Scope
import ShardRouting.Routing.Anchor
import ShardRouting.Routing.Router
import ShardRouting.Tally
import ShardRouting.Text.Blank
import ShardRouting.Text.CaseTable
import ShardRouting.Text.CodeRange
import ShardRouting.Text.EscapeTable
import ShardRouting.Text.LetterTable
import ShardRouting.Text.Lowercase
import ShardRouting.Text.Quoted
import ShardRouting.Time.Span
import ShardRouting.Time.Timestamp
import ShardRouting.Topology.Basic
import ShardRouting.Topology.Derivation
import ShardRouting.Topology.Document
import ShardRouting.Topology.Error
import ShardRouting.Topology.Layout
import ShardRouting.Topology.RangeTable
import ShardRouting.Topology.Source
import ShardRouting.Topology.Store
import ShardRouting.Trap
import ShardRouting.Yaml.Cursor
import ShardRouting.Yaml.Node
import ShardRouting.Yaml.Scalar
import ShardRouting.Yaml.Token
import ShardRouting.Main
import ShardRouting.Proofs.RangeTable.Intervals
import ShardRouting.Proofs.RangeTable.Ownership
import ShardRouting.Proofs.RangeTable.Canonical
import ShardRouting.Proofs.Topology.Derivation
import ShardRouting.Proofs.Topology.CutOver
import ShardRouting.Proofs.Store.Run
import ShardRouting.Proofs.Store.Interleaving
import ShardRouting.Proofs.Store.Independence
import ShardRouting.Proofs.Query.Fingerprint
import ShardRouting.Proofs.Query.Arrivals
import ShardRouting.Proofs.Query.Totals
import ShardRouting.Proofs.Gather.Schedule
import ShardRouting.Proofs.Gather.Await
import ShardRouting.Proofs.Gather.Collection
import ShardRouting.Proofs.Gather.Dispatch
import ShardRouting.Proofs.Gather.Query
import ShardRouting.Proofs.Query.Includes
import ShardRouting.Proofs.Routing.WriteTargets
import ShardRouting.Proofs.Routing.Hashing
import ShardRouting.Proofs.Store.MoveHistory
import ShardRouting.Proofs.RangeTable.Violations
import ShardRouting.Proofs.Topology.Validation
import ShardRouting.Proofs.Store.Staleness
import ShardRouting.Proofs.Store.Refreshing
import ShardRouting.Proofs.Decode.Json
import ShardRouting.Proofs.Topology.RoundTrip
import ShardRouting.Proofs.Routing.Totality
import ShardRouting.Proofs.Topology.Completion
import ShardRouting.Proofs.Gather.Unanswered
import ShardRouting.Proofs.Text.Lowercase
import ShardRouting.Proofs.Routing.Colocation
import ShardRouting.Proofs.Topology.MoveRequests
import ShardRouting.Proofs.RangeTable.Boundaries
import ShardRouting.Proofs.Topology.Boundaries
import ShardRouting.Proofs.Query.Aggregates
import ShardRouting.Proofs.Query.Disagreements
import ShardRouting.Proofs.Query.FingerprintOfMap
import ShardRouting.Proofs.Routing.Anchors
import ShardRouting.Proofs.Routing.Targets
import ShardRouting.Proofs.Topology.Uniform
import ShardRouting.Proofs.Topology.Balance
import ShardRouting.Proofs.Query.Wire
import ShardRouting.Proofs.Gather.Accounting
import ShardRouting.Proofs.Text.Base64
import ShardRouting.Proofs.Exporter
import ShardRouting.Proofs.Query.RoundTrip
