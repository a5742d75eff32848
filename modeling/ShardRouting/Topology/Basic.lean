namespace ShardRouting

abbrev Bucket := UInt32

abbrev ShardNumber := UInt32

structure BucketRange where
  start : Bucket
  shard : ShardNumber
deriving DecidableEq

inductive MoveStatus
  | moving
  | done
deriving DecidableEq

def MoveStatus.name : MoveStatus → String
  | .moving => "moving"
  | .done => "done"

structure Move where
  source : ShardNumber
  destination : ShardNumber
  status : MoveStatus
deriving DecidableEq

namespace Move

def isMoving (m : Move) : Bool := m.status = .moving

def readShard (m : Move) : ShardNumber :=
  match m.status with
  | .moving => m.source
  | .done => m.destination

end Move

structure Migration extends Move where
  bucket : Bucket
deriving DecidableEq

def defaultBucketSpace : UInt32 := 1048576

def isPowerOfTwo (n : UInt32) : Bool := n.toNat.isPowerOfTwo

end ShardRouting
