import ShardRouting.Config
import ShardRouting.Routing.Anchor
import ShardRouting.Tally
import ShardRouting.Topology.Layout

namespace ShardRouting

inductive WriteRoute
  | single (shard : ShardNumber)
  | dual (primary secondary : ShardNumber)
  | blocked (m : Migration)
deriving DecidableEq

structure Decision where
  bucket : Bucket
  readShard : ShardNumber
  write : WriteRoute
  migration? : Option Migration
  version : UInt64
deriving DecidableEq

def WriteRoute.targets : WriteRoute → Except RoutingError (List ShardNumber)
  | .single s => .ok [s]
  | .dual primary secondary => .ok [primary, secondary]
  | .blocked m => .error (.bucketMigrating m.bucket m.source m.destination)

def WritePolicy.route (p : WritePolicy) (m : Migration) : WriteRoute :=
  match m.status, p with
  | .done, _ => .single m.destination
  | .moving, .source => .single m.source
  | .moving, .dualWrite => .dual m.source m.destination
  | .moving, .redirect => .single m.destination
  | .moving, .block => .blocked m

structure Router where
  separator : Char
  policy : WritePolicy
deriving DecidableEq

namespace Router

def create (t : Topology) (c : Config) : Except TopologyError Router :=
  if t.space = c.space then .ok ⟨c.separator, c.writePolicy⟩
  else .error (.spaceMismatch c.space t.space)

variable (r : Router) (t : Topology)

def bucket (key : String) : Attempt RoutingError Bucket := bucketFor key r.separator t.space

def decision (b : Bucket) : Decision where
  bucket := b
  readShard := t.readShard b
  write := match t.migration? b with
    | none => .single (t.owner b)
    | some m => r.policy.route m
  migration? := t.migration? b
  version := t.version

/-- One decision, and a corruption when the range table has to be asked and has no range for the
bucket. -/
def decisionTally (b : Bucket) : Tally where
  routeRequests := 1
  routeCorruption := if (t.move? b).isNone && (t.ranges.position? b).isNone then 1 else 0

def decideBucket (b : Bucket) : Metered (Except RoutingError Decision) :=
  if t.space ≤ b then pure (.error (.bucketOutOfSpace b t.space))
  else .count (decisionTally t b) (.ok (r.decision t b))

def decide (key : String) : Metered (Attempt RoutingError Decision) := do
  match r.bucket t key with
  | .error e => pure (.error e)
  | .ok b => return Attempt.ofExcept (← r.decideBucket t b)

def route (key : String) : Metered (Attempt RoutingError ShardNumber) := do
  return (← r.decide t key).map (·.readShard)

def routeForWrite (key : String) : Metered (Attempt RoutingError (List ShardNumber)) := do
  return (← r.decide t key) >>= fun d => Attempt.ofExcept d.write.targets

def readShard (b : Bucket) : Metered (Except RoutingError ShardNumber) := do
  return (← r.decideBucket t b).map (·.readShard)

end Router

end ShardRouting
