import ShardRouting.Ordered.Map
import ShardRouting.Routing.Anchor
import ShardRouting.Time.Span
import ShardRouting.Topology.Error

namespace ShardRouting

inductive ShardError
  | timeout (limit : Span)
  | unreachable (reason : String)
  | remote (report : String)
  | cancelled
  | taskFailed (reason : String)
deriving DecidableEq

def ShardError.message : ShardError → String
  | .timeout limit => s!"timed out after {limit.render}"
  | .unreachable reason => s!"unreachable: {reason}"
  | .remote report => s!"shard error: {report}"
  | .cancelled => "cancelled"
  | .taskFailed reason => s!"task failed: {reason}"

inductive DispatchError
  | cancelled
  | noTargets
  | shardsFailed (total : Nat) (failures : OrderedMap ShardNumber ShardError)
deriving DecidableEq

def DispatchError.message : DispatchError → String
  | .cancelled => "scatter-gather cancelled"
  | .noTargets => "no target shards"
  | .shardsFailed total failures => s!"{failures.size} of {total} shard commands failed"

inductive QueryError
  | routing (e : RoutingError)
  | topology (e : TopologyError)
  | dispatch (e : DispatchError)
deriving DecidableEq

def QueryError.message : QueryError → String
  | .routing e => e.message
  | .topology e => e.message
  | .dispatch e => e.message

end ShardRouting
