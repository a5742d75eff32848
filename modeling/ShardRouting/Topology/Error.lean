import ShardRouting.Topology.Basic

namespace ShardRouting

inductive TopologyError
  | noRanges
  | firstRangeNotZero (start : Bucket)
  | rangesNotAscending (previous next : Bucket)
  | rangeOutOfSpace (start : Bucket) (space : UInt32)
  | rangeExists (start : Bucket)
  | spaceNotPowerOfTwo (space : UInt32)
  | spaceMismatch (expected found : UInt32)
  | unknownShard (shard : ShardNumber)
  | migrationOutOfSpace (bucket : Bucket) (space : UInt32)
  | sourceMismatch (bucket : Bucket) (source owner : ShardNumber)
  | migrationExists (bucket : Bucket)
  | noMigration (bucket : Bucket)
  | selfMigration (bucket : Bucket) (shard : ShardNumber)
  | staleVersion (current offered : UInt64)
deriving DecidableEq

def TopologyError.message : TopologyError → String
  | .noRanges => "topology has no bucket ranges"
  | .firstRangeNotZero start => s!"first bucket range starts at {start}, expected 0"
  | .rangesNotAscending previous next =>
    s!"bucket range starting at {next} follows range starting at {previous}"
  | .rangeOutOfSpace start space => s!"bucket range start {start} outside bucket space {space}"
  | .rangeExists start => s!"a bucket range already starts at {start}"
  | .spaceNotPowerOfTwo space => s!"bucket space {space} is not a power of two"
  | .spaceMismatch expected found =>
    s!"bucket space {found} does not match expected bucket space {expected}"
  | .unknownShard shard => s!"shard {shard} is not part of the topology"
  | .migrationOutOfSpace bucket space =>
    s!"migration bucket {bucket} outside bucket space {space}"
  | .sourceMismatch bucket source owner =>
    s!"bucket {bucket} migrates from shard {source} but is owned by shard {owner}"
  | .migrationExists bucket => s!"bucket {bucket} is already migrating"
  | .noMigration bucket => s!"bucket {bucket} has no migration in progress"
  | .selfMigration bucket shard =>
    s!"bucket {bucket} cannot migrate to its own shard {shard}"
  | .staleVersion current offered =>
    s!"topology version {offered} is not newer than current version {current}"

end ShardRouting
