import ShardRouting.Topology.Layout
import ShardRouting.Trap

namespace ShardRouting

inductive Derivation
  | beginMigration (bucket : Bucket) (destination : ShardNumber)
  | completeMigration (bucket : Bucket)
  | cancelMigration (bucket : Bucket)
  | splitRange (start : Bucket) (shard : ShardNumber)
  | mergeRanges
  | addShard (shard : ShardNumber)
deriving DecidableEq

namespace Topology

variable (t : Topology)

def beginMigration (b : Bucket) (destination : ShardNumber) : Except TopologyError Layout :=
  if t.space ≤ b then .error (.migrationOutOfSpace b t.space)
  else if t.moves.contains b then .error (.migrationExists b)
  else .ok { t.toLayout with moves := t.moves.insert b ⟨t.owner b, destination, .moving⟩ }

def completeMigration (b : Bucket) : Except TopologyError Layout :=
  match t.move? b with
  | none => .error (.noMigration b)
  | some m => .ok { t.toLayout with
      ranges := t.ranges.reassign t.space b m.destination
      moves := t.moves.erase b }

def cancelMigration (b : Bucket) : Except TopologyError Layout :=
  if (t.move? b).any Move.isMoving then .ok { t.toLayout with moves := t.moves.erase b }
  else .error (.noMigration b)

def splitRange (b : Bucket) (s : ShardNumber) : Except TopologyError Layout :=
  if t.space ≤ b then .error (.rangeOutOfSpace b t.space)
  else if s ∉ t.shards then .error (.unknownShard s)
  else if t.ranges.any (·.start = b) then .error (.rangeExists b)
  else .ok { t.toLayout with ranges := t.ranges.split b s }

def mergeRanges : Layout := { t.toLayout with ranges := t.ranges.merge }

def addShard (s : ShardNumber) : Layout := { t.toLayout with shards := t.shards.insert s }

def change : Derivation → Except TopologyError Layout
  | .beginMigration b destination => t.beginMigration b destination
  | .completeMigration b => t.completeMigration b
  | .cancelMigration b => t.cancelMigration b
  | .splitRange b s => t.splitRange b s
  | .mergeRanges => .ok t.mergeRanges
  | .addShard s => .ok (t.addShard s)

/-- The successor of a topology: what the change itself refuses comes first, then the version that
has no successor, then the rules of a layout. -/
def derive (d : Derivation) : Attempt TopologyError Topology := do
  let l ← Attempt.ofExcept (t.change d)
  let version ← Attempt.ofTrap (addWords l.version 1)
  Attempt.ofExcept (ofLayout { l with version })

end Topology

end ShardRouting
