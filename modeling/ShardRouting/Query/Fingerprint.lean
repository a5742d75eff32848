import ShardRouting.Hash.XxHash64
import ShardRouting.Topology.Basic

namespace ShardRouting

def combineHash (acc value : UInt64) : UInt64 := (rotateLeft acc 5 + acc) ^^^ value

def combineEtags (etags : List (ShardNumber × UInt64)) : UInt64 :=
  (etags.mergeSort fun a b => a.1 ≤ b.1).foldl (fun acc e => combineHash acc e.2) 0

end ShardRouting
